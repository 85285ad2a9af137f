import Mathlib.Data.List.Forall2
import CatalogDdl.Proofs.Types.ColumnType

/-! # Canonical type texts

A type text has one canonical form, which is read to the same type.

* `DeclaredType.text`: a type written out.
* `SameWord`, `SameBehind`, `Respelled`: texts that differ in nothing that counts, part by part.
* `DeclaredType.parse_text`: a type that was read is read again from its own text.
* `DeclaredType.parse_congr`: texts that differ in nothing that counts are read to the same type.
* `DeclaredType.parse_canonical`: the two together, and that there is no size without a name.
-/

namespace CatalogDdl
set_option autoImplicit false
open Text

namespace DeclaredType

/-! ## Types as texts -/

/-- A type written out: its name, and its size in parentheses where it has one. -/
def text (type : DeclaredType) : String :=
  match type.size with
  | none => type.baseName
  | some size => type.baseName ++ "(" ++ toString size ++ ")"

/-! ## What does not count -/

/-- Words that differ in the case of ASCII letters at most. -/
def SameWord (w other : List Char) : Prop :=
  w.map Char.toUpper = other.map Char.toUpper

instance (w other : List Char) : Decidable (SameWord w other) :=
  inferInstanceAs (Decidable (_ = _))

/-- Whether a text begins with these digits in parentheses, with any blanks before and inside them. Digits may be of
any script: of what stands in the parentheses it counts that nothing is blank and nothing closes them. -/
def HasGroup (digits cs : List Char) : Prop :=
  ∃ before inner after more, cs = before ++ '(' :: (inner ++ (digits ++ (after ++ ')' :: more))) ∧
    IsBlankText before ∧ IsBlankText inner ∧ IsBlankText after ∧ digits ≠ [] ∧
      ∀ c ∈ digits, isBlank c = false ∧ c ≠ ')'

/-- What stands behind the names of two texts: the same text, or sizes that differ in leading zeros at most. The blanks
around the parentheses and inside them may be others, and so may all that follows them. -/
inductive SameBehind : List Char → List Char → Prop
  | same (rest : List Char) : SameBehind rest rest
  | group {digits others rest more : List Char} (hasGroup : HasGroup digits rest) (hasOther : HasGroup others more)
    (sameDigits : digits.dropWhile (· == '0') = others.dropWhile (· == '0')) : SameBehind rest more

/-- Texts that differ in nothing that counts: in blanks, in the case of the words of the name, and behind the name as
`SameBehind` says. Texts that begin with no name are all alike. -/
inductive Respelled : List Char → List Char → Prop
  | nameless {cs ds : List Char} (h : ∀ c ∈ (skipBlanks cs).head?, opensWord c = false)
    (ho : ∀ c ∈ (skipBlanks ds).head?, opensWord c = false) : Respelled cs ds
  | named {blanks name rest otherBlanks otherName otherRest : List Char} {ws others : List (List Char)}
    (isBlank : IsBlankText blanks) (otherIsBlank : IsBlankText otherBlanks) (isName : IsLongestName ws name rest)
    (otherIsName : IsName others otherName) (sameWords : List.Forall₂ SameWord ws others)
    (sameBehind : SameBehind rest otherRest) :
    Respelled (blanks ++ (name ++ rest)) (otherBlanks ++ (otherName ++ otherRest))

/-! ## Names -/

variable {w name rest more digits others cs : List Char} {ws : List (List Char)}

theorem IsName.isWord (h : IsName ws name) : ∀ w ∈ ws, IsWord w := by
  induction h with
  | word isWord => simpa using isWord
  | more isWord _ _ _ ih => exact List.forall_mem_cons.2 ⟨isWord, ih⟩

theorem upper_congr {other : List Char} (h : IsWord w) (ho : IsWord other) (hs : SameWord w other) :
    upper (String.ofList w) = upper (String.ofList other) := by
  rw [← String.toList_inj, toList_upper, toList_upper, String.toList_ofList, String.toList_ofList, upperChars_word h,
    upperChars_word ho]
  exact hs

theorem nameOf_congr {others : List (List Char)} (h : ∀ w ∈ ws, IsWord w) (ho : ∀ w ∈ others, IsWord w)
    (hs : List.Forall₂ SameWord ws others) : nameOf ws = nameOf others := by
  have hm : ws.map (fun w => upper (String.ofList w)) = others.map fun w => upper (String.ofList w) := by
    induction hs with
    | nil => rfl
    | cons hw _ ih =>
      obtain ⟨hword, h⟩ := List.forall_mem_cons.1 h
      obtain ⟨hother, ho⟩ := List.forall_mem_cons.1 ho
      rw [List.map_cons, List.map_cons, upper_congr hword hother hw, ih h ho]
  rw [nameOf, nameOf, hm]

theorem opensWord_toUpper {c : Char} (h : opensWord c = true) : opensWord c.toUpper = true := by
  refine of_continuesWord (p := fun c => opensWord c = true → opensWord c.toUpper = true) ?_
    (continuesWord_of_opensWord h) h
  decide

theorem continuesWord_toUpper {c : Char} (h : continuesWord c = true) : continuesWord c.toUpper = true := by
  refine of_continuesWord (p := fun c => continuesWord c = true → continuesWord c.toUpper = true) ?_ h h
  decide

theorem toUpper_toUpper {c : Char} (h : continuesWord c = true) : c.toUpper.toUpper = c.toUpper := by
  refine of_continuesWord (p := fun c => c.toUpper.toUpper = c.toUpper) ?_ h
  decide

theorem IsWord.map_toUpper (h : IsWord w) : IsWord (w.map Char.toUpper) := by
  cases w with
  | nil => exact h.elim
  | cons c more =>
    refine ⟨opensWord_toUpper h.1, fun d hd => ?_⟩
    obtain ⟨e, he, rfl⟩ := List.mem_map.1 hd
    exact continuesWord_toUpper (h.2 e he)

theorem toList_upper_word (h : IsWord w) : (upper (String.ofList w)).toList = w.map Char.toUpper := by
  rw [toList_upper, String.toList_ofList, upperChars_word h]

/-- The name of a type is a name itself, with its words in upper case. -/
theorem IsName.nameOf (h : IsName ws name) : IsName (ws.map (·.map Char.toUpper)) (nameOf ws).toList := by
  induction h with
  | word isWord =>
    rw [nameOf_singleton, toList_upper_word isWord]
    exact .word isWord.map_toUpper
  | more isWord separated isBlank isName ih =>
    obtain ⟨next, more, rfl⟩ := List.exists_cons_of_ne_nil isName.ne_nil
    have hs : IsBlankText " ".toList := by
      intro c hc
      obtain rfl : c = ' ' := List.mem_singleton.1 hc
      decide
    rw [nameOf_cons_cons, String.toList_append, String.toList_append, toList_upper_word isWord, List.append_assoc]
    exact .more isWord.map_toUpper (List.cons_ne_nil _ _) hs ih

theorem nameOf_map_toUpper (h : IsName ws name) : nameOf (ws.map (·.map Char.toUpper)) = nameOf ws := by
  refine nameOf_congr h.nameOf.isWord h.isWord ?_
  rw [List.forall₂_map_left_iff, List.forall₂_same]
  intro w hw
  rw [SameWord, List.map_map]
  exact List.map_congr_left fun c hc => toUpper_toUpper ((h.isWord w hw).continues c hc)

/-! ## Sizes -/

theorem digitsValue_zero (ds : List Char) : digitsValue ('0' :: ds) = digitsValue ds := rfl

/-- A numeral is read without its leading zeros. -/
theorem numeral?_eq (most : Nat) (h : digits ≠ []) :
    numeral? most digits =
      if (digits.dropWhile (· == '0')).all Char.isDigit ∧ digitsValue (digits.dropWhile (· == '0')) ≤ most then
        some (digitsValue (digits.dropWhile (· == '0'))) else none := by
  have hd : ∀ ds : List Char, (ds.dropWhile (· == '0')).all Char.isDigit = ds.all Char.isDigit ∧
      digitsValue (ds.dropWhile (· == '0')) = digitsValue ds := by
    intro ds
    induction ds with
    | nil => exact ⟨rfl, rfl⟩
    | cons d ds ih =>
      by_cases hz : d = '0'
      · subst hz
        rw [List.dropWhile_cons_of_pos (by decide), ih.1, ih.2, List.all_cons, digitsValue_zero]
        exact ⟨rfl, rfl⟩
      · rw [List.dropWhile_cons_of_neg (by simpa using hz)]
        exact ⟨rfl, rfl⟩
  rw [(hd digits).1, (hd digits).2, numeral?]
  cases hall : digits.all Char.isDigit <;> simp [h]

theorem numeral?_congr (most : Nat) (h : digits ≠ []) (ho : others ≠ [])
    (hs : digits.dropWhile (· == '0') = others.dropWhile (· == '0')) :
    numeral? most digits = numeral? most others := by
  rw [numeral?_eq most h, numeral?_eq most ho, hs]

theorem HasGroup.size?_eq (h : HasGroup digits cs) : digits ≠ [] ∧ size? cs = numeral? maxSize digits := by
  obtain ⟨before, inner, after, more, rfl, hb, hi, ha, hne, hd⟩ := h
  exact ⟨hne, size?_group hb hi ha hne hd more⟩

theorem endsName_parenthesis {before : List Char} (hb : IsBlankText before) (rest : List Char) :
    EndsName (before ++ '(' :: rest) := by
  constructor
  · cases before with
    | nil =>
      intro c hc
      obtain rfl : '(' = c := Option.some.inj hc
      decide
    | cons b before => exact head?_append_blanks hb (List.cons_ne_nil b before) _
  · rw [skipBlanks_append hb, skipBlanks_cons (by decide)]
    rfl

theorem HasGroup.endsName (h : HasGroup digits cs) : EndsName cs := by
  obtain ⟨before, inner, after, more, rfl, hb, -⟩ := h
  exact endsName_parenthesis hb _

theorem SameBehind.size?_eq (h : SameBehind rest more) : size? rest = size? more := by
  cases h with
  | same => rfl
  | group hasGroup hasOther sameDigits =>
    obtain ⟨hne, hs⟩ := hasGroup.size?_eq
    obtain ⟨hno, ho⟩ := hasOther.size?_eq
    rw [hs, ho, numeral?_congr maxSize hne hno sameDigits]

theorem SameBehind.endsName (h : SameBehind rest more) (hr : EndsName rest) : EndsName more := by
  cases h with
  | same => exact hr
  | group _ hasOther _ => exact hasOther.endsName

/-! ## Reading -/

/-- Texts that differ in nothing that counts are read to the same type. -/
theorem parse_congr {raw other : String} (h : Respelled raw.toList other.toList) : parse raw = parse other := by
  generalize e : raw.toList = cs at h
  generalize eo : other.toList = ds at h
  cases h with
  | nameless h ho => rw [parse_of_nameless (e ▸ h), parse_of_nameless (eo ▸ ho)]
  | named isBlank otherIsBlank isName otherIsName sameWords sameBehind =>
    have hends := (isLongestName_iff.1 isName).2
    have hother := isLongestName_iff.2 ⟨otherIsName, sameBehind.endsName hends⟩
    rw [parse_of_isLongestName e isBlank isName, parse_of_isLongestName eo otherIsBlank hother, sameBehind.size?_eq,
      nameOf_congr isName.isName.isWord otherIsName.isWord sameWords]

theorem isBlankText_nil : IsBlankText [] := fun _ hc => nomatch hc

theorem exists_sizeText {size : Option Nat} (h : ∀ n, size = some n → n ≤ maxSize) (name : String) :
    ∃ rest, (text ⟨name, size⟩).toList = name.toList ++ rest ∧ EndsName rest ∧ size? rest = size := by
  cases size with
  | none =>
    refine ⟨[], ?_, ⟨fun c hc => (nomatch hc), rfl⟩, rfl⟩
    rw [text, List.append_nil]
  | some n =>
    have hs : HasSize n ('(' :: ((toString n).toList ++ [')'])) :=
      ⟨[], [], _, [], [], rfl, isBlankText_nil, isBlankText_nil, isBlankText_nil, isNumeral_toString n, h n rfl⟩
    have he : EndsName ('(' :: ((toString n).toList ++ [')'])) := endsName_parenthesis isBlankText_nil _
    refine ⟨'(' :: ((toString n).toList ++ [')']), ?_, he, size?_of_hasSize hs⟩
    simp [text]

theorem le_of_size? {n : Nat} (h : size? cs = some n) : n ≤ maxSize := by
  obtain ⟨_, _, _, _, _, -, -, -, -, -, hn⟩ := hasSize_of_size? h
  exact hn

/-- A type that was read is read again from its own text. -/
theorem parse_text (raw : String) : parse (parse raw).text = parse raw := by
  by_cases h : (words raw.toList).1 = []
  · rw [parse_of_nameless (word?_eq_none_iff.1 (fst_words_eq_nil_iff.1 h))]
    exact parse_of_nameless fun c hc => nomatch hc
  · obtain ⟨blanks, name, -, -, hn, -⟩ := exists_name _ h
    obtain ⟨rest, ht, hr, hs⟩ := exists_sizeText (fun _ => le_of_size?) (nameOf (words raw.toList).1)
    have hl := isLongestName_iff.2 ⟨hn.nameOf, hr⟩
    rw [parse_of_words h, parse_of_isLongestName ht isBlankText_nil hl, nameOf_map_toUpper hn, hs]

theorem size_of_nameless {raw : String} (h : (parse raw).baseName = "") : (parse raw).size = none := by
  by_cases hw : (words raw.toList).1 = []
  · rw [parse_of_nameless (word?_eq_none_iff.1 (fst_words_eq_nil_iff.1 hw))]
  · obtain ⟨blanks, name, -, -, hn, -⟩ := exists_name _ hw
    rw [parse_of_words hw] at h
    exact absurd h (nameOf_ne_empty hn)

/-- **Types that are read have a canonical form.** Written out they are read again, and texts that differ in nothing
that counts have the same one. -/
theorem parse_canonical :
    (∀ raw, ((parse raw).baseName = "" → (parse raw).size = none) ∧ parse (parse raw).text = parse raw) ∧
      ∀ raw other : String, Respelled raw.toList other.toList → parse raw = parse other :=
  ⟨fun raw => ⟨size_of_nameless, parse_text raw⟩, fun _ _ => parse_congr⟩

theorem isBlankText_of_all {cs : List Char} (h : cs.all isBlank = true) : IsBlankText cs :=
  List.all_eq_true.1 h

theorem isWord_of_all {c : Char} {more : List Char} (h : (opensWord c && more.all continuesWord) = true) :
    IsWord (c :: more) :=
  (Bool.and_eq_true_iff.1 h).imp_right List.all_eq_true.1

/-- Two spellings of a type of two words with the largest size. -/
theorem respelled_largest :
    Respelled "\tBig \u2003int ( 04294967295\u00a0) x".toList "bIG Int(4294967295),".toList := by
  have hw : IsName [['B', 'i', 'g'], ['i', 'n', 't']] (['B', 'i', 'g'] ++ ([' ', '\u2003'] ++ ['i', 'n', 't'])) :=
    .more (isWord_of_all (by decide)) (by decide) (isBlankText_of_all (by decide)) (.word (isWord_of_all (by decide)))
  have ho : IsName [['b', 'I', 'G'], ['I', 'n', 't']] (['b', 'I', 'G'] ++ ([' '] ++ ['I', 'n', 't'])) :=
    .more (isWord_of_all (by decide)) (by decide) (isBlankText_of_all (by decide)) (.word (isWord_of_all (by decide)))
  have hs : List.Forall₂ SameWord [['B', 'i', 'g'], ['i', 'n', 't']] [['b', 'I', 'G'], ['I', 'n', 't']] :=
    .cons (by decide) (.cons (by decide) .nil)
  have hd : ∀ digits : List Char, digits.all (fun c => !isBlank c && c != ')') = true →
      ∀ c ∈ digits, isBlank c = false ∧ c ≠ ')' := by
    intro digits h c hc
    simpa using List.all_eq_true.1 h c hc
  have hg : HasGroup "04294967295".toList " ( 04294967295\u00a0) x".toList :=
    ⟨[' '], [' '], ['\u00a0'], [' ', 'x'], by decide, isBlankText_of_all (by decide), isBlankText_of_all (by decide),
      isBlankText_of_all (by decide), by decide, hd _ (by decide)⟩
  have hh : HasGroup "4294967295".toList "(4294967295),".toList :=
    ⟨[], [], [], [','], by decide, isBlankText_nil, isBlankText_nil, isBlankText_nil, by decide, hd _ (by decide)⟩
  have hb : IsBlankText ['\t'] := isBlankText_of_all (by decide)
  have e : "\tBig \u2003int ( 04294967295\u00a0) x".toList =
      ['\t'] ++ ((['B', 'i', 'g'] ++ ([' ', '\u2003'] ++ ['i', 'n', 't'])) ++ " ( 04294967295\u00a0) x".toList) := by
    decide
  have eo : "bIG Int(4294967295),".toList =
      [] ++ ((['b', 'I', 'G'] ++ ([' '] ++ ['I', 'n', 't'])) ++ "(4294967295),".toList) := by
    decide
  rw [e, eo]
  exact .named hb isBlankText_nil (isLongestName_iff.2 ⟨hw, hg.endsName⟩) ho hs (.group hg hh (by decide))

theorem parse_canonical_largest :
    Respelled "\tBig \u2003int ( 04294967295\u00a0) x".toList "bIG Int(4294967295),".toList ∧
      parse "\tBig \u2003int ( 04294967295\u00a0) x" = parse "bIG Int(4294967295)," ∧
      (parse "bIG Int(4294967295),").text = "BIG INT(4294967295)" :=
  ⟨respelled_largest, parse_canonical.2 _ _ respelled_largest, by decide +kernel⟩

end DeclaredType

end CatalogDdl
