import CatalogDdl.Proofs.Sql.Name
import CatalogDdl.Proofs.Sql.Reader

/-! # Texts put together

Properties that hold of names and fixed words, and of every text that is put together from them.

* `Composes`: what keeps such a property. A second one may hold of a whole text by its end alone.
* `composes_selfContained`, `composes_transparent`: the properties by which clauses and statements are told apart.
-/

namespace CatalogDdl.Sql
set_option autoImplicit false

/-- The characters that mean nothing outside quotes, neither between clauses nor between statements. -/
def isBland (c : Char) : Bool :=
  Nesting.isInert c && isCalm c

/-- `inner` holds of what a statement is made of and is kept when texts are put together. `last` is kept by a
text of that kind in front. -/
structure Composes (inner last : List Char → Prop) : Prop where
  append : ∀ {cs ds}, inner cs → inner ds → inner (cs ++ ds)
  before : ∀ {cs ds}, inner cs → last ds → last (cs ++ ds)
  alone : ∀ {cs}, inner cs → last cs
  bland : ∀ {cs : List Char}, cs.all isBland = true → inner cs
  parenthesized : ∀ {cs : List Char}, cs.all isBland = true → inner ('(' :: (cs ++ [')']))
  name : ∀ name, inner (identifier name).toList
  names : ∀ names, inner ('(' :: ((identifiers names).toList ++ [')']))
  literal : ∀ text, inner (literal text).toList

/-- The characters of plain names are bland, digits among them. -/
theorem isBland_of_continuesPlain {c : Char} (h : continuesPlain c = true) : isBland c = true := by
  have hne := ne_of_test h
  simp [isBland, Nesting.isInert, isCalm, Nesting.isQuote, hne '"' rfl, hne '\x27' rfl, hne '(' rfl, hne ')' rfl,
    hne ',' rfl, hne ';' rfl, hne '-' rfl, hne '/' rfl]

theorem Composes.plainName {inner last : List Char → Prop} (hc : Composes inner last) (name : String) :
    inner (plainIdentifier name).toList := by
  rw [plainIdentifier]
  split
  · next hp =>
    refine hc.bland ?_
    rw [List.all_eq_true]
    intro c hm
    exact isBland_of_continuesPlain (all_continuesPlain hp c hm)
  · exact hc.name name

section
variable {cs : List Char} (h : cs.all isBland = true)
include h

theorem all_isInert_of_bland : cs.all Nesting.isInert = true := by
  rw [List.all_eq_true] at h ⊢
  intro c hc
  have hb := h c hc
  rw [isBland, Bool.and_eq_true] at hb
  exact hb.1

theorem all_isCalm_of_bland : cs.all isCalm = true := by
  rw [List.all_eq_true] at h ⊢
  intro c hc
  have hb := h c hc
  rw [isBland, Bool.and_eq_true] at hb
  exact hb.2

end

theorem composes_selfContained : Composes IsSelfContained IsSelfContained where
  append := IsSelfContained.append
  before := IsSelfContained.append
  alone h := h
  bland h := isSelfContained_inert (all_isInert_of_bland h)
  parenthesized h := Nesting.run_parenthesized (Nesting.run_inert 1 (all_isInert_of_bland h))
  name := Nesting.run_identifier 0
  names names := Nesting.run_parenthesized (Nesting.run_identifiers 0 names)
  literal := Nesting.run_literal 0

theorem IsTransparent.parenthesized {cs : List Char} (h : IsTransparent cs) :
    IsTransparent ('(' :: (cs ++ [')'])) := by
  have ho : IsTransparent ['('] := isTransparent_calm (by decide)
  have hc : IsTransparent [')'] := isTransparent_calm (by decide)
  exact ho.append (h.append hc)

theorem composes_transparent : Composes IsTransparent IsClosedText where
  append := IsTransparent.append
  before := IsTransparent.closed_append
  alone := IsTransparent.isClosed
  bland h := isTransparent_calm (all_isCalm_of_bland h)
  parenthesized h := (isTransparent_calm (all_isCalm_of_bland h)).parenthesized
  name := isTransparent_identifier
  names names := (isTransparent_identifiers names).parenthesized
  literal := isTransparent_literal

end CatalogDdl.Sql
