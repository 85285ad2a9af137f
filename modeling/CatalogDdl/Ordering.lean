/-! # Stable ordering

* `orderedBy`: a list in ascending order of a key.

Nothing is lost (`orderedBy_perm`), the keys ascend (`pairwise_orderedBy`), and items with the same key keep
their order (`filter_orderedBy`). Where no two items have the same key, the list depends on the items alone
(`orderedBy_congr`).
-/

namespace CatalogDdl
set_option autoImplicit false
universe u v

section
variable {α : Type u} {κ : Type v} [LE κ] [DecidableLE κ]

/-- Puts an item before the first one whose key is not smaller. -/
def insertBy (key : α → κ) (item : α) : List α → List α
  | [] => [item]
  | next :: rest => if key item ≤ key next then item :: next :: rest else next :: insertBy key item rest

/-- The items in ascending order of a key. Items with the same key stay in the order in which they come. -/
def orderedBy (key : α → κ) : List α → List α
  | [] => []
  | item :: rest => insertBy key item (orderedBy key rest)

theorem insertBy_perm (key : α → κ) (item : α) (items : List α) :
    (insertBy key item items).Perm (item :: items) := by
  induction items with
  | nil => exact .refl _
  | cons next rest ih =>
    rw [insertBy]
    split
    · exact .refl _
    · exact (ih.cons next).trans (.swap item next rest)

theorem orderedBy_perm (key : α → κ) (items : List α) : (orderedBy key items).Perm items := by
  induction items with
  | nil => exact .refl _
  | cons item rest ih => exact (insertBy_perm key item _).trans (ih.cons item)

@[simp] theorem length_orderedBy (key : α → κ) (items : List α) :
    (orderedBy key items).length = items.length :=
  (orderedBy_perm key items).length_eq

@[simp] theorem mem_orderedBy {key : α → κ} {items : List α} {item : α} :
    item ∈ orderedBy key items ↔ item ∈ items :=
  (orderedBy_perm key items).mem_iff

end

section
variable {α : Type u} {κ : Type v} [LE κ] [DecidableLE κ] [Std.IsLinearOrder κ]

theorem pairwise_insertBy {key : α → κ} {items : List α} (item : α)
    (h : items.Pairwise fun a b => key a ≤ key b) :
    (insertBy key item items).Pairwise fun a b => key a ≤ key b := by
  induction items with
  | nil => simp [insertBy]
  | cons next rest ih =>
    have hn := List.pairwise_cons.1 h
    rw [insertBy]
    split
    · next hle =>
      refine List.pairwise_cons.2 ⟨fun b hb => ?_, h⟩
      rcases List.mem_cons.1 hb with rfl | hb
      · exact hle
      · exact Std.le_trans hle (hn.1 b hb)
    · next hle =>
      refine List.pairwise_cons.2 ⟨fun b hb => ?_, ih hn.2⟩
      rcases List.mem_cons.1 ((insertBy_perm key item rest).mem_iff.1 hb) with rfl | hb
      · exact Std.le_of_not_ge hle
      · exact hn.1 b hb

theorem pairwise_orderedBy (key : α → κ) (items : List α) :
    (orderedBy key items).Pairwise fun a b => key a ≤ key b := by
  induction items with
  | nil => exact .nil
  | cons item rest ih => exact pairwise_insertBy item ih

theorem filter_insertBy [DecidableEq κ] (key : α → κ) (k : κ) (item : α) (items : List α) :
    (insertBy key item items).filter (key · = k) = (item :: items).filter (key · = k) := by
  induction items with
  | nil => rfl
  | cons next rest ih =>
    rw [insertBy]
    split
    · rfl
    · next hle =>
      have hne : ¬ (key item = k ∧ key next = k) := fun h => hle (h.1 ▸ h.2 ▸ Std.le_refl k)
      rw [List.filter_cons, ih]
      by_cases hi : key item = k <;> by_cases hn : key next = k <;> simp_all

/-- Items with the same key stay in the order in which they come. -/
theorem filter_orderedBy [DecidableEq κ] (key : α → κ) (k : κ) (items : List α) :
    (orderedBy key items).filter (key · = k) = items.filter (key · = k) := by
  induction items with
  | nil => rfl
  | cons item rest ih =>
    rw [orderedBy, filter_insertBy, List.filter_cons, List.filter_cons, ih]

/-- Items whose keys ascend are in order, if no two of them have the same key. -/
theorem eq_orderedBy {key : α → κ} {items others : List α} (hp : others.Perm items)
    (ha : others.Pairwise fun a b => key a ≤ key b) (hd : ∀ a ∈ items, ∀ b ∈ items, key a = key b → a = b) :
    others = orderedBy key items := by
  refine List.Perm.eq_of_pairwise (fun a b hm hn hab hba => ?_) ha (pairwise_orderedBy key items)
    (hp.trans (orderedBy_perm key items).symm)
  exact hd a (hp.mem_iff.1 hm) b (mem_orderedBy.1 hn) (Std.le_antisymm hab hba)

theorem orderedBy_congr {key : α → κ} {items others : List α} (hp : items.Perm others)
    (hd : ∀ a ∈ items, ∀ b ∈ items, key a = key b → a = b) : orderedBy key items = orderedBy key others :=
  eq_orderedBy ((orderedBy_perm key items).trans hp) (pairwise_orderedBy key items) fun a hm b hn =>
    hd a (hp.mem_iff.2 hm) b (hp.mem_iff.2 hn)

end

end CatalogDdl
