import CatalogDdl.Database.Inspection
import CatalogDdl.Proofs.Types.Canonical

/-! # Affinities of columns

What a column makes of the values that are put into it.

* `Affinity.stored_text`, `Affinity.stored_ofString`: texts are taken as they are, except for numbers where the column
  prefers these.
* `Affinity.occurs_iff`: a part of a name, wherever it begins.
* `IsTextName`: the types that are known for texts.
* `TypeName.affinity_of_isTextName`: columns of these types prefer texts, unless `int` is part of the type.
-/

namespace CatalogDdl
set_option autoImplicit false
open Text

/-! ## Stored values -/

namespace Affinity
variable (affinity : Affinity)

theorem stored_null : affinity.stored .null = .null := by
  cases affinity <;> rfl

theorem stored_integer {affinity : Affinity} (ht : affinity ≠ .text) (hr : affinity ≠ .real) (n : Int) :
    affinity.stored (.integer n) = .integer n := by
  cases affinity with
  | text => contradiction
  | real => contradiction
  | blob | numeric | integer => rfl

theorem stored_text_integer (n : Int) : Affinity.text.stored (.integer n) = .ofString (toString n) := rfl

theorem stored_text_ofString (content : String) : Affinity.text.stored (.ofString content) = .ofString content := rfl

/-- A column that does not prefer numbers takes a text as it is, and so does any other if the text is no number. -/
theorem stored_ofString {affinity : Affinity} {content : String}
    (h : affinity.isNumeric = false ∨ Value.wholeNumber? content.toList = none) :
    affinity.stored (.ofString content) = .ofString content := by
  cases affinity with
  | blob | text => rfl
  | numeric | integer | real =>
    have hn : Value.wholeNumber? content.toList = none := h.resolve_left (by decide)
    simp only [stored, Value.ofString, hn, Option.getD_none, storedNumber]

theorem stored_numeral {affinity : Affinity} {content : String} {n : Int}
    (ha : affinity = .numeric ∨ affinity = .integer)
    (h : Value.wholeNumber? content.toList = some (.integer n)) :
    affinity.stored (.ofString content) = .integer n := by
  rcases ha with rfl | rfl <;> simp only [stored, Value.ofString, h, Option.getD_some, storedNumber]

/-! ## Names of types -/

theorem occurs_iff {part cs : List Char} : occurs part cs = true ↔ part <:+: cs := by
  induction cs with
  | nil => rw [occurs, List.isEmpty_iff, List.infix_nil]
  | cons c rest ih => rw [occurs, Bool.or_eq_true, List.isPrefixOf_iff_prefix, ih, List.infix_cons_iff]

theorem ofType_eq_text {name : String} {part : List Char} (hp : part ∈ ["char", "clob", "text"].map String.toList)
    (h : part <:+: name.toList.map Char.toLower) (hi : ¬ "int".toList <:+: name.toList.map Char.toLower) :
    ofType name = .text := by
  have ha : (["char", "clob", "text"].any fun part => occurs part.toList (name.toList.map Char.toLower)) = true := by
    obtain ⟨word, hw, rfl⟩ := List.mem_map.1 hp
    exact List.any_eq_true.2 ⟨word, hw, occurs_iff.2 h⟩
  rw [← occurs_iff] at hi
  rw [ofType, if_neg hi, if_pos ha]

end Affinity

theorem Text.pieces_of_notMem {α : Type} [DecidableEq α] {separator : α} {cs : List α} (h : separator ∉ cs) :
    pieces separator cs = [cs] := by
  induction cs with
  | nil => rfl
  | cons c rest ih =>
    obtain ⟨hc, hr⟩ := not_or.1 (mt List.mem_cons.2 h)
    rw [pieces, if_neg (Ne.symm hc), ih hr]
    rfl

theorem Text.pieces_append {α : Type} [DecidableEq α] {separator : α} {cs : List α} (h : separator ∉ cs)
    (rest : List α) : pieces separator (cs ++ separator :: rest) = cs :: pieces separator rest := by
  induction cs with
  | nil => rw [List.nil_append, pieces, if_pos rfl]
  | cons c more ih =>
    obtain ⟨hc, hr⟩ := not_or.1 (mt List.mem_cons.2 h)
    rw [List.cons_append, pieces, if_neg (Ne.symm hc), ih hr]
    rfl

namespace DeclaredType

/-- Whether one of the words of a type is the name of a type of texts. -/
def IsTextName (type : DeclaredType) : Prop :=
  ∃ word ∈ nameWords type.baseName, (word, .text) ∈ TargetType.known ∨ (word, .varchar) ∈ TargetType.known

theorem IsName.infix_of_mem {ws : List (List Char)} {name : List Char} (h : IsName ws name) :
    ∀ w ∈ ws, w <:+: name := by
  induction h with
  | word isWord => simp
  | more isWord separated isBlank isName ih =>
    rw [List.forall_mem_cons]
    refine ⟨(List.prefix_append _ _).isInfix, fun w hw => (ih w hw).trans ?_⟩
    exact ((List.suffix_append _ _).trans (List.suffix_append _ _)).isInfix

theorem toLower_toUpper {c : Char} (h : continuesWord c = true) : c.toUpper.toLower = c.toLower := by
  refine of_continuesWord (p := fun c => c.toUpper.toLower = c.toLower) ?_ h
  decide

theorem nameWords_nameOf {ws : List (List Char)} {name : List Char} (h : IsName ws name) :
    nameWords (nameOf ws) = ws.map fun w => upper (String.ofList w) := by
  have hs {w : List Char} (h : IsWord w) : ' ' ∉ w.map Char.toUpper := by
    intro hm
    exact Bool.false_ne_true (h.map_toUpper.continues ' ' hm)
  induction h with
  | word isWord =>
    rw [nameOf_singleton, nameWords, toList_upper_word isWord, pieces_of_notMem (hs isWord), List.map_singleton,
      ← toList_upper_word isWord, String.ofList_toList, List.map_singleton]
  | more isWord separated isBlank isName ih =>
    obtain ⟨next, more, rfl⟩ := List.exists_cons_of_ne_nil isName.ne_nil
    have hl : " ".toList = [' '] := rfl
    rw [nameOf_cons_cons, nameWords, String.toList_append, String.toList_append, toList_upper_word isWord, hl,
      List.append_assoc, List.singleton_append, pieces_append (hs isWord), List.map_cons, ← toList_upper_word isWord,
      String.ofList_toList, List.map_cons]
    exact congrArg _ ih

/-- A known name of a type of texts has one of the parts by which a column prefers texts. -/
theorem exists_part {word : String}
    (h : (word, .text) ∈ TargetType.known ∨ (word, .varchar) ∈ TargetType.known) :
    ∃ part ∈ ["char", "clob", "text"].map String.toList, part <:+: word.toList.map Char.toLower := by
  have hk : ∀ entry ∈ TargetType.known, entry.2 = .text ∨ entry.2 = .varchar →
      ∃ part ∈ ["char", "clob", "text"].map String.toList, part <:+: entry.1.toList.map Char.toLower := by
    decide +kernel
  rcases h with h | h
  · exact hk _ h (.inl rfl)
  · exact hk _ h (.inr rfl)

theorem ofType_of_isTextName {type : String} (h : (parse type).IsTextName)
    (hi : ¬ "int".toList <:+: type.toList.map Char.toLower) : Affinity.ofType type = .text := by
  obtain ⟨word, hw, hk⟩ := h
  by_cases hn : (words type.toList).1 = []
  · rw [parse_of_nameless (word?_eq_none_iff.1 (fst_words_eq_nil_iff.1 hn))] at hw
    obtain rfl := List.mem_singleton.1 hw
    exact absurd hk (by decide)
  · obtain ⟨blanks, name, e, -, hname, -⟩ := exists_name _ hn
    rw [parse_of_words hn, nameWords_nameOf hname] at hw
    obtain ⟨w, hm, rfl⟩ := List.mem_map.1 hw
    obtain ⟨part, hp, ho⟩ := exists_part hk
    have hl : (upper (String.ofList w)).toList.map Char.toLower = w.map Char.toLower := by
      rw [toList_upper_word (hname.isWord w hm), List.map_map]
      exact List.map_congr_left fun c hc => toLower_toUpper ((hname.isWord w hm).continues c hc)
    have hw : w <:+: type.toList := by
      rw [e]
      exact (hname.infix_of_mem w hm).trans ⟨blanks, (words type.toList).2, List.append_assoc _ _ _⟩
    refine Affinity.ofType_eq_text hp ?_ hi
    rw [hl] at ho
    exact ho.trans (hw.map _)

end DeclaredType

/-- A column whose type has a known name of texts in it prefers texts, unless `int` is part of the type. -/
theorem TypeName.affinity_of_isTextName {name : TypeName} {type : String} (ht : name.text = .ok type)
    (h : (DeclaredType.parse type).IsTextName) (hi : ¬ "int".toList <:+: type.toList.map Char.toLower) :
    name.affinity = .text := by
  have ha := DeclaredType.ofType_of_isTextName h hi
  cases name with
  | missing =>
    obtain rfl := Except.ok.inj ht
    exact absurd ha (by decide)
  | standard name | other name => exact Except.ok.inj ht ▸ ha
  | cut name => contradiction

example : (TypeName.other "VARCHAR(20)").affinity = .text := by decide +kernel

example : (TypeName.other "TEXT POINTS").affinity = .integer := by decide +kernel

end CatalogDdl
