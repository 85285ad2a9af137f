import Mathlib.Data.List.Basic
import CatalogDdl.Proofs.Sql.Declaration
import CatalogDdl.Proofs.Types.Grammar
import CatalogDdl.Text.Basic
import CatalogDdl.Types.Target

/-! # The column types of type texts

Which words of a type text decide its column type, and when a size is kept.

* `nameWords`: the words of a name.
* `StandsFor`: the type that words stand for by the table of known names, and by nothing else.
* `CarriesNumber`: a text with a number in parentheses somewhere in it.
* `DeclaredType.goesByName_parse`: the first word of a type text decides where it is known, and only `VARCHAR` keeps
  a size.
-/

namespace CatalogDdl
set_option autoImplicit false
open Text

/-! ## Names and their types -/

/-- The words of a name. Single spaces stand between them. -/
def nameWords (name : String) : List String :=
  (pieces ' ' name.toList).map String.ofList

/-- Whether no type is known by a name. -/
def IsUnknown (name : String) : Prop :=
  ∀ target, (name, target) ∉ TargetType.known

/-- The type that words stand for. If the first one is the name of a type, the others make no difference. Else it
takes all of them to name a type, and words that name none stand for `TEXT`. -/
inductive StandsFor : List String → TargetType → Prop
  | first {word : String} {more : List String} {target : TargetType} (isKnown : (word, target) ∈ TargetType.known) :
    StandsFor (word :: more) target
  | whole {words : List String} {target : TargetType} (isUnknown : ∀ word ∈ words.head?, IsUnknown word)
    (isKnown : (" ".intercalate words, target) ∈ TargetType.known) : StandsFor words target
  | fallback {words : List String} (isUnknown : ∀ word ∈ words.head?, IsUnknown word)
    (noName : IsUnknown (" ".intercalate words)) : StandsFor words .text

/-- Whether a number in parentheses stands somewhere in a text. -/
def CarriesNumber (n : Nat) (text : String) : Prop :=
  ∃ before digits after, text.toList = before ++ '(' :: (digits ++ ')' :: after) ∧ DeclaredType.IsNumeral digits n

theorem Text.head?_pieces {α : Type} [DecidableEq α] (separator : α) (cs : List α) :
    (pieces separator cs).head? = some (cs.takeWhile (· != separator)) := by
  induction cs with
  | nil => rfl
  | cons c rest ih =>
    by_cases h : c = separator
    · simp [pieces, h]
    · rw [pieces, if_neg h, List.head?_cons, List.headD_eq_head?_getD, ih, Option.getD_some,
        List.takeWhile_cons_of_pos (by simpa using h)]

theorem head?_nameWords (name : String) : (nameWords name).head? = some (DeclaredType.firstWord name) := by
  rw [nameWords, List.head?_map, head?_pieces]
  rfl

theorem joined_eq_intercalate (words : List (List Char)) : joined ' ' words = [' '].intercalate words := by
  induction words with
  | nil => rfl
  | cons word more ih =>
    cases more with
    | nil => simp [joined]
    | cons next more =>
      have hj : joined ' ' (word :: next :: more) = word ++ ' ' :: joined ' ' (next :: more) := rfl
      rw [hj, ih, List.intercalate_cons_cons, List.append_assoc, List.singleton_append]

theorem intercalate_nameWords (name : String) : " ".intercalate (nameWords name) = name := by
  have hs : " ".toList = [' '] := rfl
  have hm : (nameWords name).map String.toList = pieces ' ' name.toList := by
    rw [nameWords, List.map_map]
    exact (List.map_congr_left fun cs _ => String.toList_ofList).trans (List.map_id _)
  rw [← String.toList_inj, String.toList_intercalate, hm, hs, ← joined_eq_intercalate, joined_pieces]

namespace TargetType
variable {name : String} {target : TargetType}

theorem ofName?_eq_some_iff : ofName? name = some target ↔ (name, target) ∈ known := by
  have hk : ∀ entry ∈ known, ofName? entry.1 = some entry.2 := by decide
  constructor
  · intro h
    obtain ⟨before, more, e, -⟩ := List.lookup_eq_some_iff.1 h
    rw [e]
    exact List.mem_append_right _ List.mem_cons_self
  · exact fun h => hk (name, target) h

theorem ofName?_eq_none_iff : ofName? name = none ↔ IsUnknown name := by
  rw [Option.eq_none_iff_forall_ne_some]
  exact forall_congr' fun target => not_congr ofName?_eq_some_iff

/-- Where the first word of a known name is known too, both stand for the same type. -/
theorem eq_of_firstWord {first : TargetType} (h : ofName? name = some target)
    (hf : ofName? (DeclaredType.firstWord name) = some first) : first = target := by
  have hk : ∀ entry ∈ known, ∀ first ∈ ofName? (DeclaredType.firstWord entry.1), first = entry.2 := by decide
  exact hk (name, target) (ofName?_eq_some_iff.1 h) first hf

end TargetType

/-! ## Targets -/

open TargetType in
theorem standsFor_iff {name : String} {target : TargetType} :
    StandsFor (nameWords name) target ↔ DeclaredType.targetOf name = target := by
  have hw := intercalate_nameWords name
  obtain ⟨more, hn⟩ := List.head?_eq_some_iff.1 (head?_nameWords name)
  have hu : (∀ word ∈ (nameWords name).head?, IsUnknown word) ↔ ofName? (DeclaredType.firstWord name) = none := by
    rw [head?_nameWords, ofName?_eq_none_iff]
    simp
  rw [DeclaredType.targetOf]
  constructor
  · intro h
    generalize e : nameWords name = words at h
    cases h with
    | first isKnown =>
      rw [hn] at e
      obtain ⟨rfl, -⟩ := List.cons.inj e
      have hf := ofName?_eq_some_iff.2 isKnown
      cases ho : ofName? name with
      | none => rw [hf, Option.none_or, Option.getD_some]
      | some whole => rw [Option.some_or, Option.getD_some, eq_of_firstWord ho hf]
    | whole isUnknown isKnown =>
      subst e
      rw [hw] at isKnown
      rw [ofName?_eq_some_iff.2 isKnown, Option.some_or, Option.getD_some]
    | fallback isUnknown noName =>
      subst e
      rw [hw] at noName
      rw [ofName?_eq_none_iff.2 noName, hu.1 isUnknown, Option.none_or, Option.getD_none]
  · rintro rfl
    cases hf : ofName? (DeclaredType.firstWord name) with
    | some first =>
      have ht : ((ofName? name).or (some first)).getD .text = first := by
        cases ho : ofName? name with
        | none => rfl
        | some whole => exact (eq_of_firstWord ho hf).symm
      rw [ht, hn]
      exact .first (ofName?_eq_some_iff.1 hf)
    | none =>
      cases ho : ofName? name with
      | some whole => exact .whole (hu.2 hf) (by rw [hw]; exact ofName?_eq_some_iff.1 ho)
      | none => exact .fallback (hu.2 hf) (by rw [hw]; exact ofName?_eq_none_iff.1 ho)

/-! ## Sizes -/

theorem isNumeral_toString (n : Nat) : DeclaredType.IsNumeral (toString n).toList n where
  not_empty := by
    rw [Nat.toString_eq_repr, Nat.toList_repr]
    exact Nat.toDigits_ne_nil
  isDigit _ h := Sql.isDigit_toString n h
  value_eq := by
    rw [Nat.toString_eq_repr, Nat.toList_repr]
    exact Nat.ofDigitChars_toDigits (by omega) (by omega)

namespace ColumnType

theorem sql_none (target : TargetType) : (ColumnType.mk target none).sql = target.sql := rfl

theorem toList_sql_some (target : TargetType) (size : Nat) :
    (ColumnType.mk target (some size)).sql.toList = target.sql.toList ++ '(' :: ((toString size).toList ++ [')']) := by
  simp [ColumnType.sql, toString]

/-- The text of a column type carries its size and no other number. -/
theorem carriesNumber_sql_iff (type : ColumnType) (n : Nat) : CarriesNumber n type.sql ↔ type.size = some n := by
  obtain ⟨target, size⟩ := type
  have ho : '(' ∉ target.sql.toList := by cases target <;> decide
  cases size with
  | none =>
    refine iff_of_false ?_ (fun h => nomatch h)
    rintro ⟨before, digits, after, e, -⟩
    rw [sql_none] at e
    exact ho (e ▸ List.mem_append_right _ List.mem_cons_self)
  | some size =>
    constructor
    · rintro ⟨before, digits, after, e, hn⟩
      have hp : ∀ c, c.isDigit = false → c ∉ (toString size).toList := by
        intro c hc hm
        rw [Sql.isDigit_toString size hm] at hc
        contradiction
      have hs : '(' ∉ (toString size).toList ++ [')'] := by
        rw [List.mem_append, not_or]
        exact ⟨hp _ rfl, by decide⟩
      rw [toList_sql_some, List.append_cons_inj_of_notMem ho hs] at e
      obtain ⟨-, -, e⟩ := e
      rw [List.append_cons_inj_of_notMem (hp _ rfl) List.not_mem_nil] at e
      obtain ⟨rfl, -, -⟩ := e
      exact congrArg some ((isNumeral_toString size).value_eq.symm.trans hn.value_eq)
    · rintro h
      obtain rfl := Option.some.inj h
      exact ⟨_, _, _, toList_sql_some target size, isNumeral_toString size⟩

theorem sql_of_no_number (type : ColumnType) (h : ∀ n, ¬ CarriesNumber n type.sql) : type.sql = type.target.sql := by
  have hs : type.size = none :=
    Option.eq_none_iff_forall_ne_some.2 fun n hn => h n ((type.carriesNumber_sql_iff n).2 hn)
  rw [ColumnType.sql, hs]

end ColumnType

/-! ## Type texts -/

namespace DeclaredType

/-- What holds of all ASCII characters holds of those that words consist of. -/
theorem of_continuesWord {p : Char → Prop} (hp : ∀ n < 0x80, p (Char.ofNat n)) {c : Char}
    (h : continuesWord c = true) : p c := by
  have hc := hp c.toNat (toNat_bounds_of_continuesWord h).2
  rwa [Char.ofNat_toNat] at hc

theorem upperChar_toUpper {c : Char} (h : continuesWord c = true) : upperChar c.toUpper = [c.toUpper] := by
  refine of_continuesWord (p := fun c => upperChar c.toUpper = [c.toUpper]) ?_ h
  decide

theorem IsWord.continues {w : List Char} (h : IsWord w) : ∀ c ∈ w, continuesWord c = true := by
  cases w with
  | nil => exact h.elim
  | cons c more => exact List.forall_mem_cons.2 ⟨continuesWord_of_opensWord h.1, h.2⟩

theorem upperChars_word {w : List Char} (h : IsWord w) : upperChars w = w.map Char.toUpper := by
  rw [List.map_eq_flatMap]
  exact List.flatMap_congr fun c hc => upperChar_of_continuesWord (h.continues c hc)

theorem upper_upper_word {w : List Char} (h : IsWord w) :
    upper (upper (String.ofList w)) = upper (String.ofList w) := by
  have hi : upperChars (w.map Char.toUpper) = w.map Char.toUpper := by
    rw [upperChars, List.flatMap_map, List.map_eq_flatMap]
    exact List.flatMap_congr fun c hc => upperChar_toUpper (h.continues c hc)
  rw [← String.toList_inj, toList_upper, toList_upper, String.toList_ofList, upperChars_word h, hi]

theorem upper_append (a b : String) : upper (a ++ b) = upper a ++ upper b := by
  rw [← String.toList_inj, String.toList_append, toList_upper, toList_upper, toList_upper, String.toList_append,
    upperChars_append]

theorem nameOf_singleton (w : List Char) : nameOf [w] = upper (String.ofList w) := by
  simp [nameOf]

theorem nameOf_cons_cons (w next : List Char) (more : List (List Char)) :
    nameOf (w :: next :: more) = upper (String.ofList w) ++ " " ++ nameOf (next :: more) := by
  rw [nameOf, List.map_cons, List.map_cons, String.intercalate_cons_cons]
  rfl

theorem upper_nameOf {ws : List (List Char)} {name : List Char} (h : IsName ws name) :
    upper (nameOf ws) = nameOf ws := by
  induction h with
  | @word w isWord => rw [nameOf_singleton, upper_upper_word isWord]
  | @more w blanks name ws isWord separated isBlank isName ih =>
    obtain ⟨next, more, rfl⟩ := List.exists_cons_of_ne_nil isName.ne_nil
    have hs : upper " " = " " := by decide
    rw [nameOf_cons_cons, upper_append, upper_append, upper_upper_word isWord, hs, ih]

theorem upper_baseName_parse (text : String) : upper (parse text).baseName = (parse text).baseName := by
  by_cases h : (words text.toList).1 = []
  · rw [parse_of_nameless (word?_eq_none_iff.1 (fst_words_eq_nil_iff.1 h))]
    decide
  · obtain ⟨blanks, name, -, -, hn, -⟩ := exists_name _ h
    rw [parse_of_words h]
    exact upper_nameOf hn

/-- What decides the column type of a type text: the name in it, and a number after that for a `VARCHAR` only. -/
structure GoesByName (text : String) : Prop where
  target_iff : ∀ target, (parse text).columnType.target = target ↔ StandsFor (nameWords (parse text).baseName) target
  carriesNumber_iff : ∀ n, CarriesNumber n (parse text).columnType.sql ↔
    (parse text).columnType.target = .varchar ∧ (parse text).size = some n
  sql_of_no_number : (∀ n, ¬ CarriesNumber n (parse text).columnType.sql) →
    (parse text).columnType.sql = (parse text).columnType.target.sql
  sql_of_sameWords : (parse text).columnType.target ≠ .varchar →
    ∀ other, nameWords (parse other).baseName = nameWords (parse text).baseName →
      (parse other).columnType.sql = (parse text).columnType.sql
  /-- What follows the name plays no part. -/
  sql_of_sameName : (parse text).columnType.target ≠ .varchar →
    ∀ blanks ws name rest, text.toList = blanks ++ (name ++ rest) → IsBlankText blanks → IsLongestName ws name rest →
      ∀ more, IsLongestName ws name more →
        (parse (String.ofList (blanks ++ (name ++ more)))).columnType.sql = (parse text).columnType.sql

theorem parse_of_isLongestName {text : String} {blanks name rest : List Char} {ws : List (List Char)}
    (e : text.toList = blanks ++ (name ++ rest)) (hb : IsBlankText blanks) (hn : IsLongestName ws name rest) :
    parse text = ⟨nameOf ws, size? rest⟩ := by
  have hs : Spells text.toList ⟨nameOf ws, size? rest⟩ := e ▸ .named hb hn fun _ => size?_eq_some_iff
  exact parse_of_spells hs

theorem target_columnType_parse (text : String) :
    (parse text).columnType.target = targetOf (parse text).baseName := by
  rw [columnType, upper_baseName_parse]

theorem size_columnType (type : DeclaredType) (n : Nat) :
    type.columnType.size = some n ↔ type.columnType.target = .varchar ∧ type.size = some n := by
  have hs : type.columnType.size = if type.columnType.target.keepsSize then type.size else none := rfl
  have hk : type.columnType.target.keepsSize = true ↔ type.columnType.target = .varchar := beq_iff_eq
  rw [hs, ← hk]
  split
  · next h => rw [and_iff_right h]
  · next h => exact iff_of_false (fun e => nomatch e) fun e => h e.1

theorem sql_columnType_of_ne {type : DeclaredType} (h : type.columnType.target ≠ .varchar) :
    type.columnType.sql = type.columnType.target.sql :=
  type.columnType.sql_of_no_number fun n hn =>
    h ((size_columnType type n).1 ((type.columnType.carriesNumber_sql_iff n).1 hn)).1

/-- **The first word of a type text decides its column type** where it is the name of a type, and no size is kept but
that of a `VARCHAR`. -/
theorem goesByName_parse (text : String) : GoesByName text := by
  have hb : ∀ other, (parse other).baseName = (parse text).baseName →
      (parse text).columnType.target ≠ .varchar →
        (parse other).columnType.sql = (parse text).columnType.sql := by
    intro other e h
    have ht : (parse other).columnType.target = (parse text).columnType.target := by
      rw [target_columnType_parse, e, ← target_columnType_parse]
    rw [sql_columnType_of_ne (ht ▸ h), ht, sql_columnType_of_ne h]
  constructor
  case target_iff =>
    intro target
    rw [target_columnType_parse, standsFor_iff]
  case carriesNumber_iff =>
    intro n
    rw [ColumnType.carriesNumber_sql_iff, size_columnType]
  case sql_of_no_number => exact ColumnType.sql_of_no_number _
  case sql_of_sameWords =>
    intro h other e
    have hi := congrArg (" ".intercalate ·) e
    simp only [intercalate_nameWords] at hi
    exact hb other hi h
  case sql_of_sameName =>
    intro h blanks ws name rest e hblank hn more hm
    refine hb _ ?_ h
    rw [parse_of_isLongestName String.toList_ofList hblank hm, parse_of_isLongestName e hblank hn]

example : (parse "varchar(20)").columnType.sql = "VARCHAR(20)" := by decide +kernel

example : (parse "timestamp with time zone (3)").columnType.sql = "TIMESTAMP" := by decide +kernel

example : (parse "native\tcharacter(70) x").columnType.sql = "VARCHAR(70)" := by decide +kernel

end DeclaredType

end CatalogDdl
