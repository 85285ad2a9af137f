import CatalogDdl.Proofs.Sql.CreateTable
import CatalogDdl.Proofs.Sql.Name
import CatalogDdl.Types.Declared

/-! # The grammar of type texts

What a type text is made of, apart from how it is read.

* `IsWord`, `IsName`: a word, and a name, which is words with blanks between them.
* `IsLongestName`: a name at the beginning of a text that no other name there is longer than.
* `HasSize`: a text that begins with a size in parentheses, whatever follows it.
* `Spells`: the type that a text has by this grammar.
* `DeclaredType.parse_spells`: a type text is read to what the grammar finds in it, and to nothing else.
-/

namespace CatalogDdl
set_option autoImplicit false
open Text

namespace DeclaredType

/-! ## Grammar -/

def IsBlankText (cs : List Char) : Prop :=
  ∀ c ∈ cs, isBlank c = true

/-- An ASCII letter or an underscore, and then letters, digits and underscores. -/
def IsWord : List Char → Prop
  | [] => False
  | c :: cs => opensWord c = true ∧ ∀ d ∈ cs, continuesWord d = true

/-- Words, and a name that they make with blanks between them. -/
inductive IsName : List (List Char) → List Char → Prop
  | word {w : List Char} (isWord : IsWord w) : IsName [w] w
  | more {w blanks name : List Char} {ws : List (List Char)} (isWord : IsWord w) (separated : blanks ≠ [])
    (isBlank : IsBlankText blanks) (isName : IsName ws name) : IsName (w :: ws) (w ++ (blanks ++ name))

/-- A name with `rest` behind it, such that no other name at the same place is longer. -/
structure IsLongestName (ws : List (List Char)) (name rest : List Char) : Prop where
  isName : IsName ws name
  longest : ∀ others other, IsName others other → other <+: name ++ rest → other.length ≤ name.length

/-- A run of ASCII digits, and its value. -/
structure IsNumeral (digits : List Char) (value : Nat) : Prop where
  not_empty : digits ≠ []
  isDigit : ∀ c ∈ digits, c.isDigit = true
  value_eq : Nat.ofDigitChars 10 digits 0 = value

/-- Whether a text begins with a number of 32 bits in parentheses, with any blanks before and inside them. -/
def HasSize (size : Nat) (cs : List Char) : Prop :=
  ∃ before inner digits after more, cs = before ++ '(' :: (inner ++ (digits ++ (after ++ ')' :: more))) ∧
    IsBlankText before ∧ IsBlankText inner ∧ IsBlankText after ∧ IsNumeral digits size ∧ size ≤ 4294967295

/-- The name of a type: its words in upper case, with single spaces between them. -/
def nameOf (ws : List (List Char)) : String :=
  " ".intercalate (ws.map fun w => upper (String.ofList w))

/-- What type a text spells. A text that begins with no name has no type, whatever else it holds. Any other text has
the type of the longest name that it begins with, and a size if one stands right behind the name. -/
inductive Spells : List Char → DeclaredType → Prop
  | nameless {cs : List Char} (h : ∀ c ∈ (skipBlanks cs).head?, opensWord c = false) : Spells cs ⟨"", none⟩
  | named {blanks name rest : List Char} {ws : List (List Char)} {size : Option Nat} (isBlank : IsBlankText blanks)
    (isName : IsLongestName ws name rest) (hasSize : ∀ n, size = some n ↔ HasSize n rest) :
    Spells (blanks ++ (name ++ rest)) ⟨nameOf ws, size⟩

/-! ## Characters -/

theorem continuesWord_of_opensWord {c : Char} (h : opensWord c = true) : continuesWord c = true := by
  simp only [opensWord, Bool.or_eq_true] at h
  simp only [continuesWord, Char.isAlphanum, Bool.or_eq_true]
  exact h.imp_left .inl

theorem continuesWord_of_isDigit {c : Char} (h : c.isDigit = true) : continuesWord c = true := by
  simp [continuesWord, Char.isAlphanum, h]

/-- The characters of words lie between the space and the end of ASCII. -/
theorem toNat_bounds_of_continuesWord {c : Char} (h : continuesWord c = true) : 0x20 < c.toNat ∧ c.toNat < 0x80 := by
  have e : c.isAlphanum = (c.isUpper || c.isLower || c.isDigit) := rfl
  simp only [continuesWord, e, Bool.or_eq_true, beq_iff_eq] at h
  rcases h with ((h | h) | h) | rfl
  · have hb : 65 ≤ c.toNat ∧ c.toNat ≤ 90 := of_decide_eq_true h
    omega
  · obtain ⟨hl, hh⟩ := Bool.and_eq_true_iff.1 h
    have hb : 97 ≤ c.toNat ∧ c.toNat ≤ 122 := ⟨of_decide_eq_true hl, of_decide_eq_true hh⟩
    omega
  · have hb : 48 ≤ c.toNat ∧ c.toNat ≤ 57 := Char.isDigit_iff_toNat.1 h
    omega
  · decide

theorem isBlank_of_continuesWord {c : Char} (h : continuesWord c = true) : isBlank c = false := by
  obtain ⟨hl, hh⟩ := toNat_bounds_of_continuesWord h
  simp [isBlank]
  omega

theorem continuesWord_of_isBlank {c : Char} (h : isBlank c = true) : continuesWord c = false := by
  rw [Bool.eq_false_iff]
  intro hc
  rw [isBlank_of_continuesWord hc] at h
  contradiction

theorem upperChar_of_continuesWord {c : Char} (h : continuesWord c = true) : upperChar c = [c.toUpper] :=
  if_pos (toNat_bounds_of_continuesWord h).2

/-! ## Words -/

variable {w blanks name rest cs : List Char} {ws : List (List Char)}

theorem IsWord.exists_cons (h : IsWord w) : ∃ c more, w = c :: more ∧ opensWord c = true := by
  cases w with
  | nil => exact h.elim
  | cons c more => exact ⟨c, more, rfl, h.1⟩

theorem IsName.ne_nil (h : IsName ws name) : ws ≠ [] := by
  cases h with
  | word => exact List.cons_ne_nil _ _
  | more => exact List.cons_ne_nil _ _

theorem IsName.exists_cons (h : IsName ws name) : ∃ c more, name = c :: more ∧ opensWord c = true := by
  cases h with
  | word isWord => exact isWord.exists_cons
  | more isWord =>
    obtain ⟨c, more, rfl, hc⟩ := isWord.exists_cons
    exact ⟨c, _, rfl, hc⟩

theorem skipBlanks_append (h : IsBlankText blanks) (cs : List Char) : skipBlanks (blanks ++ cs) = skipBlanks cs :=
  List.dropWhile_append_of_pos h

theorem skipBlanks_cons {c : Char} (h : isBlank c = false) (cs : List Char) : skipBlanks (c :: cs) = c :: cs :=
  List.dropWhile_cons_of_neg (by simp [h])

theorem isBlankText_takeWhile (cs : List Char) : IsBlankText (cs.takeWhile isBlank) :=
  List.all_eq_true.1 List.all_takeWhile

theorem takeWhile_append_skipBlanks (cs : List Char) : cs.takeWhile isBlank ++ skipBlanks cs = cs :=
  List.takeWhile_append_dropWhile

theorem IsName.skipBlanks_append (h : IsName ws name) (rest : List Char) :
    skipBlanks (name ++ rest) = name ++ rest := by
  obtain ⟨c, more, rfl, hc⟩ := h.exists_cons
  exact skipBlanks_cons (isBlank_of_continuesWord (continuesWord_of_opensWord hc)) _

theorem word?_eq_none_iff : word? cs = none ↔ ∀ c ∈ cs.head?, opensWord c = false := by
  cases cs with
  | nil => simp [word?]
  | cons c cs => by_cases h : opensWord c = true <;> simp [word?, h]

theorem word?_append (h : IsWord w) (rest : List Char) :
    word? (w ++ rest) = some (w ++ rest.takeWhile continuesWord, rest.dropWhile continuesWord) := by
  cases w with
  | nil => exact h.elim
  | cons c more =>
    rw [List.cons_append, word?, if_pos h.1, List.takeWhile_append_of_pos h.2, List.dropWhile_append_of_pos h.2]
    rfl

theorem word?_append_stop (h : IsWord w) (hr : ∀ c ∈ rest.head?, continuesWord c = false) :
    word? (w ++ rest) = some (w, rest) := by
  have hw : ∀ c ∈ ([] : List Char), continuesWord c = true := by simp
  have ht := Sql.takeWhile_append_stop hw hr
  have hd := Sql.dropWhile_append_stop hw hr
  rw [List.nil_append] at ht hd
  rw [word?_append h, ht, hd, List.append_nil]

theorem of_word? (h : word? cs = some (w, rest)) :
    cs = w ++ rest ∧ IsWord w ∧ ∀ c ∈ rest.head?, continuesWord c = false := by
  cases cs with
  | nil => contradiction
  | cons c more =>
    rw [word?] at h
    split at h
    · next hc =>
      cases h
      refine ⟨by simp, ⟨hc, List.all_eq_true.1 List.all_takeWhile⟩, fun d hd => ?_⟩
      have hn := List.head?_dropWhile_not continuesWord more
      rwa [hd] at hn
    · contradiction

theorem words_of_none (h : word? (skipBlanks cs) = none) : words cs = ([], cs) := by
  rw [words.eq_def]
  split
  · rfl
  · next e => simp [h] at e

theorem words_of_some (h : word? (skipBlanks cs) = some (w, rest)) :
    words cs = (w :: (words rest).1, (words rest).2) := by
  rw [words.eq_def]
  split
  · next e => simp [h] at e
  · next e =>
    cases e.symm.trans h
    rfl

theorem fst_words_eq_nil_iff : (words cs).1 = [] ↔ word? (skipBlanks cs) = none := by
  cases h : word? (skipBlanks cs) with
  | none => simp [words_of_none h]
  | some found => simp [words_of_some h]

theorem head?_append_blanks (hb : IsBlankText blanks) (hne : blanks ≠ []) (cs : List Char) :
    ∀ c ∈ (blanks ++ cs).head?, continuesWord c = false := by
  obtain ⟨b, more, rfl⟩ := List.exists_cons_of_ne_nil hne
  intro c hc
  obtain rfl : b = c := Option.some.inj hc
  exact continuesWord_of_isBlank (hb b List.mem_cons_self)

theorem words_append_blanks (hb : IsBlankText blanks) (h : word? (skipBlanks cs) ≠ none) :
    words (blanks ++ cs) = words cs := by
  obtain ⟨⟨w, rest⟩, hw⟩ := Option.ne_none_iff_exists'.1 h
  rw [words_of_some hw, words_of_some ((skipBlanks_append hb cs).symm ▸ hw)]

/-! ## Names -/

/-- What follows a name that goes on no further. -/
structure EndsName (rest : List Char) : Prop where
  no_letter : ∀ c ∈ rest.head?, continuesWord c = false
  no_word : word? (skipBlanks rest) = none

theorem IsName.word?_ne_none (h : IsName ws name) (rest : List Char) : word? (skipBlanks (name ++ rest)) ≠ none := by
  rw [h.skipBlanks_append]
  obtain ⟨c, more, rfl, hc⟩ := h.exists_cons
  rw [List.cons_append, word?, if_pos hc]
  exact Option.some_ne_none _

/-- One step of reading a name: a word with blanks behind it, and then the rest of the name. -/
theorem words_more (hw : IsWord w) (hne : blanks ≠ []) (hb : IsBlankText blanks) (h : IsName ws name)
    (rest : List Char) :
    words (w ++ (blanks ++ name) ++ rest) = (w :: (words (name ++ rest)).1, (words (name ++ rest)).2) := by
  have hs := (IsName.more hw hne hb h).skipBlanks_append rest
  have he : word? (w ++ (blanks ++ name) ++ rest) = some (w, blanks ++ (name ++ rest)) := by
    rw [List.append_assoc, List.append_assoc]
    exact word?_append_stop hw (head?_append_blanks hb hne _)
  rw [words_of_some (hs ▸ he), words_append_blanks hb (h.word?_ne_none rest)]

theorem words_name (h : IsName ws name) (hr : EndsName rest) : words (name ++ rest) = (ws, rest) := by
  induction h with
  | word isWord =>
    have hs := (IsName.word isWord).skipBlanks_append rest
    rw [words_of_some (hs ▸ word?_append_stop isWord hr.no_letter), words_of_none hr.no_word]
  | more isWord separated isBlank isName ih => rw [words_more isWord separated isBlank isName, ih]

/-- What is read begins with a name, blanks aside, if any word is read at all. -/
theorem exists_name (cs : List Char) (h : (words cs).1 ≠ []) :
    ∃ blanks name, cs = blanks ++ (name ++ (words cs).2) ∧ IsBlankText blanks ∧ IsName (words cs).1 name ∧
      EndsName (words cs).2 := by
  induction cs using words.induct with
  | case1 cs hn => exact absurd (fst_words_eq_nil_iff.2 hn) h
  | case2 cs w rest hw ih =>
    obtain ⟨hs, isWord, hr⟩ := of_word? hw
    have hc : cs = cs.takeWhile isBlank ++ (w ++ rest) := by rw [← hs, takeWhile_append_skipBlanks]
    have hb := isBlankText_takeWhile cs
    rw [words_of_some hw]
    by_cases hm : (words rest).1 = []
    · have hn := fst_words_eq_nil_iff.1 hm
      rw [words_of_none hn]
      exact ⟨_, w, hc, hb, .word isWord, hr, hn⟩
    · obtain ⟨blanks, name, he, hblanks, hname, hends⟩ := ih hm
      -- The word before goes on as long as it can, so there are blanks between it and the next one.
      have hne : blanks ≠ [] := by
        rintro rfl
        obtain ⟨c, more, rfl, ho⟩ := hname.exists_cons
        rw [he] at hr
        exact Bool.false_ne_true ((hr c rfl).symm.trans (continuesWord_of_opensWord ho))
      refine ⟨_, w ++ (blanks ++ name), ?_, hb, .more isWord hne hblanks hname, hends⟩
      rw [List.append_assoc, List.append_assoc, ← he]
      exact hc

theorem length_words_le (cs : List Char) : (words cs).2.length ≤ cs.length := by
  by_cases h : (words cs).1 = []
  · simp [words_of_none (fst_words_eq_nil_iff.1 h)]
  · obtain ⟨blanks, name, he, -⟩ := exists_name cs h
    have hl := congrArg List.length he
    simp only [List.length_append] at hl
    omega

/-- No name at the beginning of a text is longer than what is read of it. -/
theorem IsName.length_add_le (h : IsName ws name) (rest : List Char) :
    name.length + (words (name ++ rest)).2.length ≤ (name ++ rest).length := by
  induction h with
  | @word w isWord =>
    have hs := (IsName.word isWord).skipBlanks_append rest
    have hl := length_words_le (rest.dropWhile continuesWord)
    have hd : (rest.dropWhile continuesWord).length ≤ rest.length := (List.dropWhile_suffix _).length_le
    rw [words_of_some (hs ▸ word?_append isWord rest)]
    simp only [List.length_append]
    omega
  | more isWord separated isBlank isName ih =>
    rw [words_more isWord separated isBlank isName]
    simp only [List.length_append] at ih ⊢
    omega

/-! ## Longest names -/

theorem IsName.append_letter (h : IsName ws name) {c : Char} (hc : continuesWord c = true) :
    ∃ others, IsName others (name ++ [c]) := by
  induction h with
  | @word w isWord =>
    obtain ⟨d, more, rfl, -⟩ := isWord.exists_cons
    refine ⟨_, .word ⟨isWord.1, fun e he => ?_⟩⟩
    rcases List.mem_append.1 he with he | he
    · exact isWord.2 e he
    · exact List.mem_singleton.1 he ▸ hc
  | @more w _ _ _ isWord separated isBlank _ ih =>
    obtain ⟨others, ho⟩ := ih
    refine ⟨w :: others, ?_⟩
    rw [List.append_assoc, List.append_assoc]
    exact .more isWord separated isBlank ho

theorem IsName.append_word (h : IsName ws name) (hne : blanks ≠ []) (hb : IsBlankText blanks) (hw : IsWord w) :
    IsName (ws ++ [w]) (name ++ (blanks ++ w)) := by
  induction h with
  | word isWord => exact .more isWord hne hb (.word hw)
  | more isWord separated isBlank _ ih =>
    rw [List.append_assoc, List.append_assoc]
    exact .more isWord separated isBlank ih

/-- Exactly the names that are read to their end are the longest. -/
theorem isLongestName_iff : IsLongestName ws name rest ↔ IsName ws name ∧ EndsName rest := by
  constructor
  · intro h
    have hn : ∀ c ∈ rest.head?, continuesWord c = false := by
      intro c hc
      rw [Bool.eq_false_iff]
      intro hw
      obtain ⟨more, rfl⟩ := List.head?_eq_some_iff.1 hc
      obtain ⟨others, ho⟩ := h.isName.append_letter hw
      have hl := h.longest others _ ho ⟨more, by simp⟩
      rw [List.length_append, List.length_singleton] at hl
      omega
    refine ⟨h.isName, hn, ?_⟩
    rw [Option.eq_none_iff_forall_ne_some]
    rintro ⟨w, more⟩ hw
    obtain ⟨hs, isWord, -⟩ := of_word? hw
    obtain ⟨c, cs, rfl, hc⟩ := isWord.exists_cons
    have he : rest = rest.takeWhile isBlank ++ (c :: cs ++ more) := by rw [← hs, takeWhile_append_skipBlanks]
    have hne : rest.takeWhile isBlank ≠ [] := by
      intro hb
      rw [hb, List.nil_append, List.cons_append] at he
      exact Bool.false_ne_true ((hn c (he ▸ rfl)).symm.trans (continuesWord_of_opensWord hc))
    have ho := h.isName.append_word hne (isBlankText_takeWhile rest) isWord
    have hp : name ++ (rest.takeWhile isBlank ++ c :: cs) <+: name ++ rest := by
      refine ⟨more, ?_⟩
      rw [List.append_assoc, List.append_assoc, ← he]
    have hl := h.longest _ _ ho hp
    simp only [List.length_append, List.length_cons] at hl
    omega
  · rintro ⟨h, hr⟩
    refine ⟨h, fun others other ho ⟨more, he⟩ => ?_⟩
    have hl := ho.length_add_le more
    rw [he, words_name h hr] at hl
    simp only [List.length_append] at hl
    omega

/-! ## Sizes -/

theorem numeral?_eq_some_iff {most n : Nat} {digits : List Char} :
    numeral? most digits = some n ↔ IsNumeral digits n ∧ n ≤ most := by
  have hv : digitsValue digits = Nat.ofDigitChars 10 digits 0 := rfl
  rw [numeral?, hv]
  split
  · next hn =>
    rw [Bool.or_eq_true, List.isEmpty_iff, Bool.not_eq_true', List.all_eq_false] at hn
    refine iff_of_false (fun h => nomatch h) fun ⟨h, _⟩ => ?_
    rcases hn with hn | ⟨c, hc, hd⟩
    · exact h.not_empty hn
    · exact hd (h.isDigit c hc)
  · next hn =>
    rw [Bool.or_eq_true, not_or, List.isEmpty_iff, Bool.not_eq_true', Bool.not_eq_false, List.all_eq_true] at hn
    split
    · next hm =>
      rw [Option.some_inj]
      exact ⟨fun e => ⟨⟨hn.1, hn.2, e⟩, e ▸ hm⟩, fun h => h.1.value_eq⟩
    · next hm => exact iff_of_false (fun h => nomatch h) fun h => hm (h.1.value_eq ▸ h.2)

theorem hasSize_of_size? {size : Nat} (h : size? cs = some size) : HasSize size cs := by
  rw [size?] at h
  split at h
  · next inner hi =>
    dsimp only at h
    split at h
    · next more hm =>
      obtain ⟨hn, hs⟩ := numeral?_eq_some_iff.1 h
      refine ⟨_, inner.takeWhile isBlank, _, _, more, ?_, isBlankText_takeWhile cs, isBlankText_takeWhile inner,
        isBlankText_takeWhile ((skipBlanks inner).dropWhile Char.isDigit), hn, hs⟩
      rw [← hm, takeWhile_append_skipBlanks, List.takeWhile_append_dropWhile, takeWhile_append_skipBlanks, ← hi,
        takeWhile_append_skipBlanks]
    · contradiction
  · contradiction

/-- A size in parentheses is read as far as it is written in digits. -/
theorem size?_group {before inner digits after : List Char} (hb : IsBlankText before) (hi : IsBlankText inner)
    (ha : IsBlankText after) (hne : digits ≠ []) (hd : ∀ c ∈ digits, isBlank c = false ∧ c ≠ ')')
    (more : List Char) :
    size? (before ++ '(' :: (inner ++ (digits ++ (after ++ ')' :: more)))) = numeral? maxSize digits := by
  have ho : skipBlanks (before ++ '(' :: (inner ++ (digits ++ (after ++ ')' :: more)))) =
      '(' :: (inner ++ (digits ++ (after ++ ')' :: more))) := by
    rw [skipBlanks_append hb, skipBlanks_cons (by decide)]
  have hs : skipBlanks (inner ++ (digits ++ (after ++ ')' :: more))) = digits ++ (after ++ ')' :: more) := by
    obtain ⟨d, ds, rfl⟩ := List.exists_cons_of_ne_nil hne
    rw [skipBlanks_append hi, List.cons_append, skipBlanks_cons (hd d List.mem_cons_self).1]
  have hp : skipBlanks (after ++ ')' :: more) = ')' :: more := by
    rw [skipBlanks_append ha, skipBlanks_cons (by decide)]
  rw [size?, ho]
  simp only [hs]
  by_cases hall : ∀ c ∈ digits, c.isDigit = true
  · have hr : ∀ c ∈ (after ++ ')' :: more).head?, c.isDigit = false := by
      intro c hc
      rw [Bool.eq_false_iff]
      intro hdigit
      cases after with
      | nil =>
        obtain rfl : ')' = c := Option.some.inj hc
        contradiction
      | cons b after =>
        have hw := head?_append_blanks ha (List.cons_ne_nil b after) _ c hc
        rw [continuesWord_of_isDigit hdigit] at hw
        contradiction
    simp only [Sql.takeWhile_append_stop hall hr, Sql.dropWhile_append_stop hall hr, hp]
  · -- The first character that is no digit is not the parenthesis, so the parentheses hold no size.
    obtain ⟨run, c, rest, rfl, hc, hrun⟩ : ∃ run c rest, digits = run ++ c :: rest ∧ c.isDigit = false ∧
        ∀ d ∈ run, d.isDigit = true := by
      have hn : digits.dropWhile Char.isDigit ≠ [] := by
        intro he
        have ht : digits.takeWhile Char.isDigit ++ digits.dropWhile Char.isDigit = digits :=
          List.takeWhile_append_dropWhile
        rw [he, List.append_nil] at ht
        exact hall (ht ▸ List.all_eq_true.1 List.all_takeWhile)
      obtain ⟨c, rest, hr⟩ := List.exists_cons_of_ne_nil hn
      refine ⟨digits.takeWhile Char.isDigit, c, rest, ?_, ?_, List.all_eq_true.1 List.all_takeWhile⟩
      · rw [← hr, List.takeWhile_append_dropWhile]
      · have hh := List.head?_dropWhile_not Char.isDigit digits
        rwa [hr] at hh
    obtain ⟨hblank, hclose⟩ := hd c (List.mem_append_right _ List.mem_cons_self)
    have hh : ∀ d ∈ (c :: (rest ++ (after ++ ')' :: more))).head?, d.isDigit = false := by
      intro d h
      obtain rfl : c = d := Option.some.inj h
      exact hc
    have hnone : numeral? maxSize (run ++ c :: rest) = none := by
      simp [numeral?, hc]
    rw [List.append_assoc, List.cons_append, Sql.dropWhile_append_stop hrun hh, skipBlanks_cons hblank, hnone]
    simp [hclose]

theorem size?_of_hasSize {size : Nat} (h : HasSize size cs) : size? cs = some size := by
  obtain ⟨before, inner, digits, after, more, rfl, hb, hi, ha, hn, hs⟩ := h
  have hd : ∀ c ∈ digits, isBlank c = false ∧ c ≠ ')' := by
    intro c hc
    have hdigit := hn.isDigit c hc
    refine ⟨isBlank_of_continuesWord (continuesWord_of_isDigit hdigit), ?_⟩
    rintro rfl
    contradiction
  rw [size?_group hb hi ha hn.not_empty hd]
  exact numeral?_eq_some_iff.2 ⟨hn, hs⟩

theorem size?_eq_some_iff {size : Nat} : size? cs = some size ↔ HasSize size cs :=
  ⟨hasSize_of_size?, size?_of_hasSize⟩

/-! ## Type texts -/

theorem parse_of_nameless {text : String} (h : ∀ c ∈ (skipBlanks text.toList).head?, opensWord c = false) :
    parse text = ⟨"", none⟩ := by
  rw [parse, words_of_none (word?_eq_none_iff.2 h)]

theorem parse_of_words {text : String} (h : (words text.toList).1 ≠ []) :
    parse text = ⟨nameOf (words text.toList).1, size? (words text.toList).2⟩ := by
  rw [parse]
  split
  · next e => simp [e] at h
  · next e => simp [e, nameOf]

theorem spells_parse (text : String) : Spells text.toList (parse text) := by
  by_cases h : (words text.toList).1 = []
  · have hc := word?_eq_none_iff.1 (fst_words_eq_nil_iff.1 h)
    rw [parse_of_nameless hc]
    exact .nameless hc
  · obtain ⟨blanks, name, he, hb, hn, hr⟩ := exists_name _ h
    have hs := Spells.named hb (isLongestName_iff.2 ⟨hn, hr⟩) fun _ => size?_eq_some_iff
    rw [parse_of_words h]
    rwa [← he] at hs

theorem parse_of_spells {text : String} {type : DeclaredType} (h : Spells text.toList type) : parse text = type := by
  generalize e : text.toList = cs at h
  cases h with
  | nameless h => exact parse_of_nameless (e ▸ h)
  | @named blanks name rest ws size hb hn hs =>
    obtain ⟨hname, hr⟩ := isLongestName_iff.1 hn
    have hw : words text.toList = (ws, rest) := by
      rw [e, words_append_blanks hb (hname.word?_ne_none rest), words_name hname hr]
    have hne : (words text.toList).1 ≠ [] := by
      rw [hw]
      exact hname.ne_nil
    have hz : size? rest = size := Option.ext fun n => size?_eq_some_iff.trans (hs n).symm
    rw [parse_of_words hne, hw, hz]

theorem nameOf_ne_empty (h : IsName ws name) : nameOf ws ≠ "" := by
  obtain ⟨w, more, rfl, c, cs, rfl, hc⟩ : ∃ w more, ws = w :: more ∧ ∃ c cs, w = c :: cs ∧ opensWord c = true := by
    cases h with
    | word isWord => exact ⟨_, _, rfl, isWord.exists_cons⟩
    | more isWord => exact ⟨_, _, rfl, isWord.exists_cons⟩
  have hu : (upper (String.ofList (c :: cs))).toList = c.toUpper :: upperChars cs := by
    rw [toList_upper, String.toList_ofList, upperChars, List.flatMap_cons,
      upperChar_of_continuesWord (continuesWord_of_opensWord hc)]
    rfl
  intro he
  rw [nameOf, List.map_cons, Sql.intercalate_cons] at he
  have hl := congrArg String.toList he
  rw [String.toList_append, hu] at hl
  exact List.cons_ne_nil _ _ hl

/-- **A type text is read to what the grammar makes of it**, and to nothing else. Without a letter or an underscore
behind the blanks it has no type. -/
theorem parse_spells (text : String) :
    (∀ type, parse text = type ↔ Spells text.toList type) ∧
      (parse text = ⟨"", none⟩ ↔ ∀ c ∈ (skipBlanks text.toList).head?, opensWord c = false) := by
  refine ⟨fun type => ⟨fun h => h ▸ spells_parse text, parse_of_spells⟩, ?_, parse_of_nameless⟩
  intro h
  rw [← word?_eq_none_iff, ← fst_words_eq_nil_iff]
  by_contra hw
  obtain ⟨blanks, name, -, -, hn, -⟩ := exists_name _ hw
  rw [parse_of_words hw] at h
  exact nameOf_ne_empty hn (DeclaredType.mk.inj h).1

example : parse "varchar(20)" = ⟨"VARCHAR", some 20⟩ := by cbv

example : parse "\tdouble\u2003 precision ( 007 ) x" = ⟨"DOUBLE PRECISION", some 7⟩ := by cbv

example : parse "decimal(10, 2)" = ⟨"DECIMAL", none⟩ := by cbv

example : parse "char(4294967296)" = ⟨"CHAR", none⟩ := by cbv

end DeclaredType

end CatalogDdl
