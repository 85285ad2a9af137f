import Mathlib.Data.List.Basic
import CatalogDdl.Sql.Quoting

/-! # Nesting

How deep a place in a text lies within quotes and parentheses.

* `Nesting.step`, `Nesting.run`: the nesting after a character and after a text. A comma or a closing
  parenthesis outside of everything ends the text before it.
* `IsSelfContained`: every quote and parenthesis of a text is closed again, and no comma stands outside of them.
* `clauseTexts`: the texts between commas, up to the parenthesis that closes the list of them.

`clauseTexts_intercalate` says that self-contained texts are found again, whatever is in their quotes.
-/

namespace CatalogDdl.Sql
set_option autoImplicit false

/-- The quote that is open, if any, and the number of parentheses that are. -/
structure Nesting where
  quote : Option Char
  depth : Nat
deriving DecidableEq, Repr

namespace Nesting

def outside : Nesting :=
  ⟨none, 0⟩

def isQuote (c : Char) : Bool :=
  c == '"' || c == '\x27'

/-- The nesting after one more character. A doubled quote closes a quoted text and opens it again. -/
def step (n : Nesting) (c : Char) : Option Nesting :=
  match n.quote with
  | some quote => some (if c = quote then ⟨none, n.depth⟩ else n)
  | none =>
    if isQuote c then some ⟨some c, n.depth⟩
    else if c = '(' then some ⟨none, n.depth + 1⟩
    else if n.depth = 0 ∧ (c = ')' ∨ c = ',') then none
    else if c = ')' then some ⟨none, n.depth - 1⟩
    else some n

def run (n : Nesting) : List Char → Option Nesting
  | [] => some n
  | c :: cs => (n.step c).bind fun next => next.run cs

theorem run_cons (n : Nesting) (c : Char) (cs : List Char) :
    n.run (c :: cs) = (n.step c).bind fun next => next.run cs := rfl

theorem run_append (n : Nesting) (cs ds : List Char) : n.run (cs ++ ds) = (n.run cs).bind fun m => m.run ds := by
  induction cs generalizing n with
  | nil => rfl
  | cons c cs ih =>
    rw [List.cons_append, run_cons, run_cons]
    cases n.step c with
    | none => rfl
    | some next => exact ih next

/-! ## Texts that change no nesting -/

/-- The characters that mean nothing outside quotes. -/
def isInert (c : Char) : Bool :=
  !isQuote c && c != '(' && c != ')' && c != ','

theorem step_inert (d : Nat) {c : Char} (h : isInert c = true) : step ⟨none, d⟩ c = some ⟨none, d⟩ := by
  simp only [isInert, Bool.and_eq_true, Bool.not_eq_true', bne_iff_ne] at h
  obtain ⟨⟨⟨hq, ho⟩, hc⟩, hm⟩ := h
  simp [step, hq, ho, hc, hm]

theorem run_inert (d : Nat) {cs : List Char} (h : cs.all isInert = true) : run ⟨none, d⟩ cs = some ⟨none, d⟩ := by
  induction cs with
  | nil => rfl
  | cons c cs ih =>
    rw [List.all_cons, Bool.and_eq_true] at h
    rw [run_cons, step_inert d h.1]
    exact ih h.2

theorem run_doubled (d : Nat) {quote : Char} (hq : isQuote quote = true) (cs : List Char) :
    run ⟨some quote, d⟩ (doubled quote cs) = some ⟨some quote, d⟩ := by
  induction cs with
  | nil => rfl
  | cons c cs ih =>
    by_cases hc : c = quote
    · have h1 : step ⟨some quote, d⟩ quote = some ⟨none, d⟩ := by simp [step]
      have h2 : step ⟨none, d⟩ quote = some ⟨some quote, d⟩ := by simp [step, hq]
      rw [doubled, if_pos hc, run_cons, h1, Option.bind_some, run_cons, h2, Option.bind_some, ih]
    · have h1 : step ⟨some quote, d⟩ c = some ⟨some quote, d⟩ := by simp [step, hc]
      rw [doubled, if_neg hc, run_cons, h1, Option.bind_some, ih]

theorem run_enclosed (d : Nat) {quote : Char} (hq : isQuote quote = true) (cs : List Char) :
    run ⟨none, d⟩ (enclosed quote cs) = some ⟨none, d⟩ := by
  have h1 : step ⟨none, d⟩ quote = some ⟨some quote, d⟩ := by simp [step, hq]
  have h2 : run ⟨some quote, d⟩ [quote] = some ⟨none, d⟩ := by simp [run, step]
  rw [enclosed, run_cons, h1, Option.bind_some, run_append, run_doubled d hq, Option.bind_some, h2]

theorem run_identifier (d : Nat) (name : String) : run ⟨none, d⟩ (identifier name).toList = some ⟨none, d⟩ := by
  rw [toList_identifier, run_enclosed d rfl]

theorem run_literal (d : Nat) (text : String) : run ⟨none, d⟩ (literal text).toList = some ⟨none, d⟩ := by
  rw [toList_literal, run_enclosed d rfl]

/-- Within parentheses the commas of a list of names separate no clauses. -/
theorem run_identifiers (d : Nat) (names : List String) :
    run ⟨none, d + 1⟩ (identifiers names).toList = some ⟨none, d + 1⟩ := by
  have hs : run ⟨none, d + 1⟩ ", ".toList = some ⟨none, d + 1⟩ := by simp [run, step, isQuote]
  rw [identifiers, String.toList_intercalate]
  induction names with
  | nil => rfl
  | cons name names ih =>
    cases names with
    | nil => simpa using run_enclosed (d + 1) rfl name.toList
    | cons next names =>
      rw [List.map_cons, List.map_cons, List.map_cons, List.map_cons, List.intercalate_cons_cons, run_append,
        run_append, run_identifier, Option.bind_some, hs, Option.bind_some]
      exact ih

theorem run_parenthesized {cs : List Char} (h : run ⟨none, 1⟩ cs = some ⟨none, 1⟩) :
    outside.run ('(' :: (cs ++ [')'])) = some outside := by
  have h1 : outside.step '(' = some ⟨none, 1⟩ := rfl
  rw [run_cons, h1, Option.bind_some, run_append, h]
  rfl

end Nesting

/-! ## Self-contained texts -/

/-- Whether all quotes and parentheses of a text are closed, and all its commas within them. -/
def IsSelfContained (cs : List Char) : Prop :=
  Nesting.outside.run cs = some .outside

instance (cs : List Char) : Decidable (IsSelfContained cs) :=
  inferInstanceAs (Decidable (_ = _))

theorem IsSelfContained.append {cs ds : List Char} (hc : IsSelfContained cs) (hd : IsSelfContained ds) :
    IsSelfContained (cs ++ ds) := by
  rw [IsSelfContained, Nesting.run_append, hc]
  exact hd

theorem isSelfContained_inert {cs : List Char} (h : cs.all Nesting.isInert = true) : IsSelfContained cs :=
  Nesting.run_inert 0 h

/-! ## Clauses -/

namespace Nesting

/-- The texts between the commas outside of everything, and what begins with the parenthesis that closes them. -/
def split (n : Nesting) : List Char → List (List Char) × List Char
  | [] => ([[]], [])
  | c :: cs =>
    match n.step c with
    | some next => ((next.split cs).1.modifyHead (c :: ·), (next.split cs).2)
    | none => if c = ',' then ([] :: (outside.split cs).1, (outside.split cs).2) else ([[]], c :: cs)

theorem split_append {n m : Nesting} {cs : List Char} (h : n.run cs = some m) (rest : List Char) :
    n.split (cs ++ rest) = ((m.split rest).1.modifyHead (cs ++ ·), (m.split rest).2) := by
  induction cs generalizing n with
  | nil =>
    obtain rfl : n = m := by simpa [run] using h
    have e : (([] : List Char) ++ ·) = id := by funext ds; rfl
    rw [e, List.modifyHead_id]
    rfl
  | cons c cs ih =>
    rw [run_cons] at h
    obtain ⟨next, hn, h⟩ := Option.bind_eq_some_iff.1 h
    rw [List.cons_append, split, hn]
    simp only [ih h, List.modifyHead_modifyHead]
    rfl

theorem split_self {cs : List Char} (h : IsSelfContained cs) (rest : List Char) :
    outside.split (cs ++ rest) = ((outside.split rest).1.modifyHead (cs ++ ·), (outside.split rest).2) :=
  split_append h rest

end Nesting

/-- The texts of a list of clauses up to its closing parenthesis, without the blanks after the commas. -/
def clauseTexts (cs : List Char) : List (List Char) × List Char :=
  let (texts, rest) := Nesting.outside.split cs
  (if texts = [[]] then [] else texts.map (·.dropWhile (· == ' ')), rest)

section
variable {texts : List (List Char)} (rest : List Char)

theorem split_intercalate (h : ∀ text ∈ texts, IsSelfContained text) (text : List Char)
    (ht : IsSelfContained text) :
    Nesting.outside.split ([',', ' '].intercalate (text :: texts) ++ ')' :: rest) =
      (text :: texts.map (' ' :: ·), ')' :: rest) := by
  induction texts generalizing text with
  | nil =>
    rw [List.intercalate_singleton, Nesting.split_self ht]
    simp [Nesting.split, Nesting.step, Nesting.outside, Nesting.isQuote]
  | cons next texts ih =>
    have ih := ih (fun t hm => h t (List.mem_cons_of_mem _ hm)) next (h next List.mem_cons_self)
    have hb : ∀ ds, Nesting.outside.split (',' :: ' ' :: ds) =
        ([] :: (Nesting.outside.split ds).1.modifyHead (' ' :: ·), (Nesting.outside.split ds).2) := fun ds => rfl
    rw [List.intercalate_cons_cons, List.append_assoc, List.append_assoc, Nesting.split_self ht, List.cons_append,
      List.singleton_append, hb, ih]
    simp

/-- **Self-contained clauses are found again**: no name, type or default value moves the end of one. -/
theorem clauseTexts_intercalate (h : ∀ text ∈ texts, IsSelfContained text ∧ ∃ c cs, text = c :: cs ∧ c ≠ ' ') :
    clauseTexts ([',', ' '].intercalate texts ++ ')' :: rest) = (texts, ')' :: rest) := by
  cases texts with
  | nil => rfl
  | cons text texts =>
    have ht := h text List.mem_cons_self
    have hs := split_intercalate rest (fun t hm => (h t (List.mem_cons_of_mem _ hm)).1) text ht.1
    have hd : ∀ t ∈ text :: texts, t.dropWhile (· == ' ') = t := by
      intro t hm
      obtain ⟨-, c, cs, rfl, hc⟩ := h t hm
      exact List.dropWhile_cons_of_neg (by simpa using hc)
    have hne : text ≠ [] := by
      obtain ⟨-, c, cs, e, -⟩ := ht
      simp [e]
    have hm : texts.map ((·.dropWhile (· == ' ')) ∘ (' ' :: ·)) = texts := by
      rw [List.map_congr_left (g := id)]
      · exact List.map_id _
      · intro t hm
        exact hd t (List.mem_cons_of_mem _ hm)
    rw [clauseTexts, hs]
    simp only [List.map_cons, List.map_map, hd text List.mem_cons_self, hm, List.cons.injEq, hne, false_and,
      if_false]

end

end CatalogDdl.Sql
