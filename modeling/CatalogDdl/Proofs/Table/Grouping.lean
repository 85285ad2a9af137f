import Mathlib.Algebra.BigOperators.Group.List.Basic
import Mathlib.Algebra.GroupWithZero.Nat
import Mathlib.Data.List.Basic
import Mathlib.Data.List.Induction
import CatalogDdl.Proofs.Table.Reading

/-! # Rows of foreign keys, group by group

The rows of a table's foreign keys come in any order. Reading them puts the rows of each key together.

* `AppearAs`: ids, each once, in the order in which rows first mention them.
* `IsGroup`: the rows of one id by `seq`. `Leads`: the row of an id that comes first among them.
* `ForeignKey.IsOf`: a key that holds what the rows of an id say, pair by pair.
* `ForeignKey.ofRows_groups`: one key for each id; no row is lost, and none counts for another id.
-/

namespace CatalogDdl
set_option autoImplicit false

/-! ## Groups -/

/-- Ids in the order in which rows first mention them. No id comes twice. -/
structure AppearAs (rows : List ForeignKeyRow) (ids : List Int) : Prop where
  mem_iff : ∀ id, id ∈ ids ↔ ∃ row ∈ rows, row.id = id
  ascend : ids.Pairwise fun a b => (rows.map (·.id)).idxOf a < (rows.map (·.id)).idxOf b

/-- All rows of an id in ascending order of `seq`. Rows of the same `seq` stay in the order in which they come. -/
structure IsGroup (rows : List ForeignKeyRow) (id : Int) (group : List ForeignKeyRow) : Prop where
  perm : group.Perm (rows.filter fun row => row.id = id)
  ascend : group.Pairwise fun a b => a.seq ≤ b.seq
  stable : ∀ seq, (group.filter fun row => row.seq = seq) = rows.filter fun row => row.id = id ∧ row.seq = seq

/-- The row of an id with the smallest `seq`, and the first of these if there are several. -/
def Leads (rows : List ForeignKeyRow) (id : Int) (first : ForeignKeyRow) : Prop :=
  ∃ before after, rows = before ++ first :: after ∧ first.id = id ∧
    (∀ row ∈ before, row.id = id → first.seq < row.seq) ∧ ∀ row ∈ after, row.id = id → first.seq ≤ row.seq

/-- A key that holds what the rows of an id say. Without a referenced column in one of them it has none at all. -/
structure ForeignKey.IsOf (rows : List ForeignKeyRow) (id : Int) (key : ForeignKey) : Prop where
  columns : ∃ group, IsGroup rows id group ∧ key.localColumns = group.map (·.localColumn) ∧
    (key.referencedColumns ≠ [] → key.referencedColumns.map some = group.map (·.referencedColumn))
  missing : key.referencedColumns = [] ↔ ∃ row ∈ rows, row.id = id ∧ row.referencedColumn = none
  parallel : ∀ (place : Nat) (name : String), key.referencedColumns[place]? = some name →
    ∃ row ∈ rows, row.id = id ∧ row.referencedColumn = some name ∧ key.localColumns[place]? = some row.localColumn
  leading : ∃ first, Leads rows id first ∧ key.referencedTable = first.referencedTable ∧
    key.onDelete = first.onDelete.bind Action.ofText? ∧ key.onUpdate = first.onUpdate.bind Action.ofText?

/-! ## First appearances -/

section
variable {α : Type} [DecidableEq α]

theorem eraseDups_concat (items : List α) (item : α) :
    (items ++ [item]).eraseDups = items.eraseDups ++ if item ∈ items then [] else [item] := by
  rw [List.eraseDups_append]
  by_cases h : item ∈ items <;> simp [List.removeAll, List.eraseDups_cons, h]

theorem pairwise_idxOf_eraseDups (items : List α) :
    items.eraseDups.Pairwise fun a b => items.idxOf a < items.idxOf b := by
  -- An item at the end leaves all places before it as they are, and has a later place itself if it is new.
  induction items using List.reverseRecOn with
  | nil => exact .nil
  | append_singleton items item ih =>
    have hi : ∀ a ∈ items.eraseDups, (items ++ [item]).idxOf a = items.idxOf a := by
      intro a ha
      exact List.idxOf_append_of_mem (List.mem_eraseDups.1 ha)
    have hp : items.eraseDups.Pairwise fun a b => (items ++ [item]).idxOf a < (items ++ [item]).idxOf b := by
      refine ih.imp_of_mem fun ha hb hl => ?_
      rwa [hi _ ha, hi _ hb]
    rw [eraseDups_concat]
    split
    · rwa [List.append_nil]
    · next hn =>
      refine List.pairwise_append.2 ⟨hp, List.pairwise_singleton _ _, fun a ha b hb => ?_⟩
      obtain rfl := List.mem_singleton.1 hb
      have hl := List.idxOf_lt_length_of_mem (List.mem_eraseDups.1 ha)
      rw [hi a ha, List.idxOf_append_of_notMem hn]
      omega

theorem nodup_eraseDups (items : List α) : items.eraseDups.Nodup :=
  (pairwise_idxOf_eraseDups items).imp fun hl e => by simp [e] at hl

theorem eraseDups_filter (p : α → Bool) (items : List α) : (items.filter p).eraseDups = items.eraseDups.filter p := by
  induction items using List.reverseRecOn with
  | nil => rfl
  | append_singleton items item ih =>
    rw [List.filter_append, eraseDups_concat, List.filter_append, ← ih]
    by_cases hp : p item = true
    · rw [List.filter_cons_of_pos hp, List.filter_nil, eraseDups_concat]
      by_cases hm : item ∈ items <;> simp [hm, hp]
    · by_cases hm : item ∈ items <;> simp [hm, hp]

theorem filter_ne_of_getElem? {items : List α} (hn : items.Nodup) {place : Nat} {item : α}
    (h : items[place]? = some item) : (items.filter fun other => other ≠ item) = items.eraseIdx place := by
  obtain ⟨hp, rfl⟩ := List.getElem?_eq_some_iff.1 h
  have he := List.eraseIdx_idxOf_eq_erase items[place] items
  rw [hn.idxOf_getElem place hp] at he
  rw [he, hn.erase_eq_filter]
  exact List.filter_congr fun other _ => by simp [bne, beq_eq_decide]

end

/-! ## Actions -/

/-- A blank text is no action either. -/
theorem Action.value_read (text : Option String) : (Action.read text).value = text.bind Action.ofText? := by
  cases text with
  | none => rfl
  | some text =>
    rw [Action.read, Action.parse, Option.bind_some]
    split
    · next h =>
      have hu : Text.upper "" = "" := rfl
      rw [Action.ofText?, eq_of_beq h, hu]
      rfl
    · cases Action.ofText? text <;> rfl

/-! ## One group -/

namespace ForeignKey
variable {rows group rest : List ForeignKeyRow} {id : Int} {first : ForeignKeyRow} {key : ForeignKey}

theorem isGroup_rowsOf (id : Int) (rows : List ForeignKeyRow) : IsGroup rows id (rowsOf id rows) where
  perm := orderedBy_perm _ _
  ascend := pairwise_orderedBy _ _
  stable := by
    intro seq
    rw [rowsOf, filter_orderedBy, List.filter_filter]
    refine List.filter_congr fun row _ => ?_
    rw [Bool.and_comm, Bool.decide_and]
    rfl

theorem leads_of_isGroup (h : IsGroup rows id (first :: rest)) : Leads rows id first := by
  -- Of the rows with the smallest `seq`, the group has the same one in front as `rows` has.
  have hs := h.stable first.seq
  rw [List.filter_cons_of_pos (by simp)] at hs
  obtain ⟨before, after, rfl, hb, hf, -⟩ := List.filter_eq_cons_iff.1 hs.symm
  have hl : ∀ row ∈ before ++ first :: after, row.id = id → first.seq ≤ row.seq := by
    intro row hr hi
    have hm : row ∈ first :: rest := h.perm.mem_iff.2 (List.mem_filter.2 ⟨hr, by simpa using hi⟩)
    rcases List.mem_cons.1 hm with rfl | hm
    · exact Int.le_refl _
    · exact (List.pairwise_cons.1 h.ascend).1 row hm
  refine ⟨before, after, rfl, by simpa using hf, fun row hr hi => ?_, fun row hr hi => ?_⟩
  · have hle := hl row (List.mem_append_left _ hr) hi
    have hne : row.seq ≠ first.seq := by
      intro e
      exact hb row hr (by simp [hi, e])
    omega
  · exact hl row (List.mem_append_right _ (List.mem_cons_of_mem _ hr)) hi

theorem isOf_ofGroup (h : IsGroup rows id (first :: rest)) : IsOf rows id (ofGroup first rest).value := by
  have hm : ∀ row, row ∈ first :: rest ↔ row ∈ rows ∧ row.id = id := by
    intro row
    rw [h.perm.mem_iff, List.mem_filter, decide_eq_true_eq]
  have hs : referencedColumnsOf (first :: rest) ≠ [] →
      (referencedColumnsOf (first :: rest)).map some = (first :: rest).map (·.referencedColumn) := by
    intro hne
    exact map_some_referencedColumnsOf fun row hr hn => hne (referencedColumnsOf_of_missing hr hn)
  refine ⟨⟨first :: rest, h, rfl, hs⟩, ⟨fun he => ?_, ?_⟩, fun place name hp => ?_, first, leads_of_isGroup h, rfl,
    Action.value_read _, Action.value_read _⟩
  · by_contra hn
    have hr : ∀ row ∈ first :: rest, row.referencedColumn ≠ none := by
      intro row hr e
      obtain ⟨hr, hi⟩ := (hm row).1 hr
      exact hn ⟨row, hr, hi, e⟩
    have hl := congrArg List.length (map_some_referencedColumnsOf hr)
    have he : referencedColumnsOf (first :: rest) = [] := he
    rw [he] at hl
    simp at hl
  · rintro ⟨row, hr, hi, hn⟩
    exact referencedColumnsOf_of_missing ((hm row).2 ⟨hr, hi⟩) hn
  · have hp : (referencedColumnsOf (first :: rest))[place]? = some name := hp
    have hne : referencedColumnsOf (first :: rest) ≠ [] := by
      intro he
      simp [he] at hp
    have hg := congrArg (·[place]?) (hs hne)
    simp only [List.getElem?_map, hp, Option.map_some] at hg
    obtain ⟨row, hr, hn⟩ := Option.map_eq_some_iff.1 hg.symm
    obtain ⟨hm, hi⟩ := (hm row).1 (List.mem_of_getElem? hr)
    refine ⟨row, hm, hi, hn, ?_⟩
    change ((first :: rest).map (·.localColumn))[place]? = _
    rw [List.getElem?_map, hr, Option.map_some]

/-! ## All groups -/

/-- The key of an id, if there are rows of it. -/
def keyOf? (rows : List ForeignKeyRow) (id : Int) : Option ForeignKey :=
  ofGroup? (rowsOf id rows)

theorem isOf_of_keyOf? (h : keyOf? rows id = some key) : IsOf rows id key := by
  have hg := isGroup_rowsOf id rows
  rw [keyOf?] at h
  cases e : rowsOf id rows with
  | nil =>
    rw [e] at h
    contradiction
  | cons first rest =>
    rw [e] at h hg
    obtain rfl := Option.some.inj h
    exact isOf_ofGroup hg

theorem keyOf?_ne_none (h : ∃ row ∈ rows, row.id = id) : keyOf? rows id ≠ none := by
  obtain ⟨row, hr, hi⟩ := h
  obtain ⟨first, rest, e⟩ := List.exists_cons_of_ne_nil (List.ne_nil_of_mem (mem_rowsOf.2 ⟨hr, hi⟩))
  rw [keyOf?, e]
  exact Option.some_ne_none _

theorem map_some_filterMap {α β : Type} {f : α → Option β} {items : List α} (h : ∀ item ∈ items, f item ≠ none) :
    (items.filterMap f).map some = items.map f := by
  rw [List.map_filterMap]
  refine List.filterMap_eq_map_iff_forall_eq_some.2 fun item hi => ?_
  obtain ⟨result, hr⟩ := Option.ne_none_iff_exists'.1 (h item hi)
  rw [hr, Option.map_some]

theorem map_some_ofRows (rows : List ForeignKeyRow) :
    (ofRows rows).value.map some = (rows.map (·.id)).eraseDups.map (keyOf? rows) := by
  rw [value_ofRows, groups, List.filterMap_map]
  refine map_some_filterMap fun id hi => keyOf?_ne_none ?_
  exact List.mem_map.1 (List.mem_eraseDups.1 hi)

theorem appearAs (rows : List ForeignKeyRow) : AppearAs rows (rows.map (·.id)).eraseDups where
  mem_iff := by
    intro id
    rw [List.mem_eraseDups, List.mem_map]
  ascend := pairwise_idxOf_eraseDups _

theorem forall₂_isOf (rows : List ForeignKeyRow) :
    List.Forall₂ (IsOf rows) (rows.map (·.id)).eraseDups (ofRows rows).value := by
  have h : List.Forall₂ (· = ·) ((rows.map (·.id)).eraseDups.map (keyOf? rows)) ((ofRows rows).value.map some) := by
    rw [List.forall₂_eq_eq_eq, map_some_ofRows]
  rw [List.forall₂_map_left_iff, List.forall₂_map_right_iff] at h
  exact h.imp fun _ _ => isOf_of_keyOf?

/-! ## No row is lost -/

theorem flatMap_rowsOf_perm (rows : List ForeignKeyRow) {ids : List Int} (hn : ids.Nodup) :
    (ids.flatMap (rowsOf · rows)).Perm (rows.filter fun row => row.id ∈ ids) := by
  induction ids with
  | nil => simp
  | cons id ids ih =>
    obtain ⟨hi, hn⟩ := List.nodup_cons.1 hn
    -- The rows of the first id are its group, and those of the other ids are left.
    have hp := List.filter_append_perm (fun row => decide (row.id = id)) (rows.filter fun row => row.id ∈ id :: ids)
    have ho : ((rows.filter fun row => row.id ∈ id :: ids).filter fun row => row.id = id) =
        rows.filter fun row => row.id = id := by
      rw [List.filter_filter]
      refine List.filter_congr fun row _ => ?_
      by_cases e : row.id = id <;> simp [e]
    have hr : ((rows.filter fun row => row.id ∈ id :: ids).filter fun row => !decide (row.id = id)) =
        rows.filter fun row => row.id ∈ ids := by
      rw [List.filter_filter]
      refine List.filter_congr fun row _ => ?_
      by_cases e : row.id = id <;> simp [e, hi]
    rw [ho, hr] at hp
    exact ((isGroup_rowsOf id rows).perm.append (ih hn)).trans hp

theorem localColumns_perm (rows : List ForeignKeyRow) :
    ((ofRows rows).value.flatMap (·.localColumns)).Perm (rows.map (·.localColumn)) := by
  have hp := flatMap_rowsOf_perm rows (nodup_eraseDups (rows.map (·.id)))
  have ha : (rows.filter fun row => row.id ∈ (rows.map (·.id)).eraseDups) = rows := by
    refine List.filter_eq_self.2 fun row hr => ?_
    simpa using ⟨row, hr, rfl⟩
  rw [ha] at hp
  rw [value_ofRows, flatMap_localColumns, groups, ← List.flatMap_def]
  exact hp.map _

theorem sum_length_localColumns (rows : List ForeignKeyRow) :
    ((ofRows rows).value.map fun key => key.localColumns.length).sum = rows.length := by
  rw [← List.length_flatMap, (localColumns_perm rows).length_eq, List.length_map]

/-! ## No row counts for another id -/

theorem rowsOf_filter_ne {other : Int} (h : id ≠ other) :
    rowsOf id (rows.filter fun row => row.id ≠ other) = rowsOf id rows := by
  rw [rowsOf, rowsOf, List.filter_filter]
  congr 1
  refine List.filter_congr fun row _ => ?_
  by_cases e : row.id = id <;> simp [e, h]

theorem ofRows_filter_ne {place : Nat} (h : (rows.map (·.id)).eraseDups[place]? = some id) :
    (ofRows (rows.filter fun row => row.id ≠ id)).value = (ofRows rows).value.eraseIdx place := by
  have hi : ((rows.filter fun row => row.id ≠ id).map (·.id)).eraseDups =
      (rows.map (·.id)).eraseDups.filter fun other => other ≠ id := by
    rw [← eraseDups_filter, List.filter_map]
    rfl
  refine List.map_injective_iff.2 (fun _ _ => Option.some.inj) ?_
  rw [map_some_ofRows, hi, ← List.eraseIdx_map, map_some_ofRows, List.eraseIdx_map,
    ← filter_ne_of_getElem? (nodup_eraseDups _) h]
  refine List.map_congr_left fun other ho => ?_
  rw [keyOf?, keyOf?, rowsOf_filter_ne (by simpa using (List.mem_filter.1 ho).2)]

/-- **Grouping loses no row and mixes none.** -/
theorem ofRows_groups (rows : List ForeignKeyRow) :
    ∃ ids, AppearAs rows ids ∧ List.Forall₂ (IsOf rows) ids (ofRows rows).value ∧
      ((ofRows rows).value.map fun key => key.localColumns.length).sum = rows.length ∧
      ∀ place id, ids[place]? = some id →
        (ofRows (rows.filter fun row => row.id ≠ id)).value = (ofRows rows).value.eraseIdx place :=
  ⟨_, appearAs rows, forall₂_isOf rows, sum_length_localColumns rows, fun _ _ => ofRows_filter_ne⟩

example :
    (ofRows [⟨0, 1, "t", "b", some "y", none, none⟩, ⟨1, 0, "u", "c", none, none, none⟩,
      ⟨0, 0, "t", "a", some "x", some "No Action", some " set null\n"⟩]).value =
        [⟨["a", "b"], "t", ["x", "y"], some .setNull, some .noAction⟩, ⟨["c"], "u", [], none, none⟩] := by
  decide +kernel

end ForeignKey

end CatalogDdl
