import CatalogDdl.Table.Reading
import Mathlib.Data.List.Nodup

/-! # What is read of a table

Which rows describe a table, which table they describe, and what is wrong with all others.

* `IsConsistent`: there are columns, they are numbered without gaps, and those of the foreign keys are among them.
* `Table.described`: the table that consistent rows describe.
* `Table.ofRows_eq_ok_iff`: exactly the consistent rows are read, as the table that they describe.
* `Source.Skips`: why the table of a name cannot be read.
-/

namespace CatalogDdl
set_option autoImplicit false

/-! ## Consistent rows -/

/-- Whether the ordinals of rows are 0, 1, 2, and so on, in any order. -/
def IsNumbered (rows : List ColumnRow) : Prop :=
  (rows.map (·.ordinal)).Perm ((List.range rows.length).map fun place : Nat => (place : Int))

/-- Rows that describe a table. -/
structure IsConsistent (columns : List ColumnRow) (keys : List ForeignKeyRow) : Prop where
  hasColumns : columns ≠ []
  isNumbered : IsNumbered columns
  localColumns : ∀ key ∈ keys, key.localColumn ∈ columns.map (·.name)

/-- What an inconsistency says about the rows of a table. -/
def Inconsistency.Holds (columns : List ColumnRow) (keys : List ForeignKeyRow) : Inconsistency → Prop
  | noColumns => columns = []
  | ordinal column found expected =>
    ∃ row, (orderedBy (·.ordinal) columns)[expected]? = some row ∧ row.name = column ∧ row.ordinal = found ∧
      found ≠ expected
  | unknownLocalColumn column =>
    (∃ key ∈ keys, key.localColumn = column) ∧ column ∉ columns.map (·.name)
  | reported _ => False

namespace IsNumbered
variable {rows others : List ColumnRow}

theorem perm (h : IsNumbered rows) (hp : rows.Perm others) : IsNumbered others := by
  rw [IsNumbered, ← hp.length_eq]
  exact (hp.map _).symm.trans h

theorem nodup (h : IsNumbered rows) : (rows.map (·.ordinal)).Nodup :=
  h.nodup_iff.2 (List.nodup_range.map fun _ _ => Int.ofNat.inj)

theorem eq_of_ordinal_eq (h : IsNumbered rows) :
    ∀ a ∈ rows, ∀ b ∈ rows, a.ordinal = b.ordinal → a = b :=
  fun _ ha _ hb => List.inj_on_of_nodup_map h.nodup ha hb

theorem map_orderedBy (h : IsNumbered rows) :
    (orderedBy (·.ordinal) rows).map (·.ordinal) =
      (List.range rows.length).map fun place : Nat => (place : Int) := by
  have ha : ((orderedBy (·.ordinal) rows).map (·.ordinal)).Pairwise (· ≤ ·) :=
    List.pairwise_map.2 (pairwise_orderedBy (·.ordinal) rows)
  have hr : ((List.range rows.length).map fun place : Nat => (place : Int)).Pairwise (· ≤ ·) :=
    List.pairwise_map.2 (List.pairwise_lt_range.imp fun hl => by omega)
  exact List.Perm.eq_of_pairwise (fun _ _ _ _ => Int.le_antisymm) ha hr
    (((orderedBy_perm _ rows).map _).trans h)

end IsNumbered

/-- An item with a key of its own is all that a filter for the key leaves. -/
theorem filter_eq_singleton {α β : Type} [DecidableEq β] {key : α → β} {items : List α}
    (hn : (items.map key).Nodup) {item : α} (hm : item ∈ items) :
    (items.filter fun other => key other = key item) = [item] := by
  have hd : (items.filter fun other => key other = key item).Nodup := (List.Nodup.of_map key hn).filter _
  refine List.perm_singleton.1 ((List.perm_ext_iff_of_nodup hd (List.nodup_singleton item)).2 fun other => ?_)
  rw [List.mem_filter, List.mem_singleton, decide_eq_true_eq]
  constructor
  · rintro ⟨ho, e⟩
    exact List.inj_on_of_nodup_map hn ho hm e
  · rintro rfl
    exact ⟨hm, rfl⟩

/-! ## Columns -/

/-- The column of a row whose ordinal is its place. -/
def ColumnRow.column (row : ColumnRow) : Column :=
  row.toColumn row.ordinal.toNat

namespace Column
variable {next : Nat} {rows : List ColumnRow} {columns : List Column}

theorem ofSorted_eq_ok
    (h : rows.map (·.ordinal) = (List.range' next rows.length).map fun place : Nat => (place : Int)) :
    ofSorted next rows = .ok (rows.map ColumnRow.column) := by
  induction rows generalizing next with
  | nil => rfl
  | cons row rows ih =>
    rw [List.map_cons, List.length_cons, List.range'_succ, List.map_cons, List.cons.injEq] at h
    have e : row.ordinal.toNat = next := by rw [h.1, Int.toNat_natCast]
    rw [ofSorted, if_pos h.1, ih h.2, List.map_cons, ColumnRow.column, e]
    rfl

theorem ordinals_of_ofSorted (h : ofSorted next rows = .ok columns) :
    rows.map (·.ordinal) = (List.range' next rows.length).map fun place : Nat => (place : Int) := by
  induction rows generalizing next columns with
  | nil => rfl
  | cons row rows ih =>
    rw [ofSorted] at h
    split at h
    · next e =>
      cases hr : ofSorted (next + 1) rows with
      | error cause =>
        rw [hr] at h
        contradiction
      | ok rest => rw [List.map_cons, ih hr, List.length_cons, List.range'_succ, List.map_cons, e]
    · contradiction

/-- The first row that is not in its place is reported. -/
theorem exists_of_ofSorted {cause : Inconsistency} (h : ofSorted next rows = .error cause) :
    ∃ i row, rows[i]? = some row ∧ row.ordinal ≠ ((next + i : Nat) : Int) ∧
      cause = .ordinal row.name row.ordinal (next + i) := by
  induction rows generalizing next with
  | nil => contradiction
  | cons row rows ih =>
    rw [ofSorted] at h
    split at h
    · cases hr : ofSorted (next + 1) rows with
      | ok rest =>
        rw [hr] at h
        contradiction
      | error other =>
        rw [hr] at h
        obtain rfl := Except.error.inj h
        obtain ⟨i, found, hf, ho, rfl⟩ := ih hr
        have e : next + 1 + i = next + (i + 1) := by omega
        exact ⟨i + 1, found, hf, e ▸ ho, e ▸ rfl⟩
    · next hn => exact ⟨0, row, rfl, hn, (Except.error.inj h).symm⟩

theorem ofRows_eq_ok_iff :
    ofRows rows = .ok columns ↔
      (rows ≠ [] ∧ IsNumbered rows) ∧ columns = (orderedBy (·.ordinal) rows).map ColumnRow.column := by
  rw [ofRows]
  split
  · next he => simp [List.isEmpty_iff.1 he]
  · next he =>
    have hn : rows ≠ [] := fun e => he (e ▸ rfl)
    constructor
    · intro h
      have ho := ordinals_of_ofSorted h
      refine ⟨⟨hn, ?_⟩, ?_⟩
      · have hp := ((orderedBy_perm (·.ordinal) rows).map (·.ordinal)).symm
        rw [ho, length_orderedBy, ← List.range_eq_range'] at hp
        exact hp
      · exact (Except.ok.inj ((ofSorted_eq_ok ho).symm.trans h)).symm
    · rintro ⟨⟨-, h⟩, rfl⟩
      refine ofSorted_eq_ok ?_
      rw [h.map_orderedBy, length_orderedBy, List.range_eq_range']

theorem holds_of_ofRows {cause : Inconsistency} (keys : List ForeignKeyRow) (h : ofRows rows = .error cause) :
    cause.Holds rows keys := by
  rw [ofRows] at h
  split at h
  · next he =>
    obtain rfl := Except.error.inj h
    exact List.isEmpty_iff.1 he
  · obtain ⟨i, row, hr, hn, rfl⟩ := exists_of_ofSorted h
    rw [Nat.zero_add] at hn ⊢
    exact ⟨row, hr, rfl, rfl, hn⟩

end Column

/-! ## Foreign keys -/

theorem exists_map_some {α : Type} {items : List (Option α)} (h : none ∉ items) :
    ∃ results : List α, items = results.map some := by
  induction items with
  | nil => exact ⟨[], rfl⟩
  | cons item items ih =>
    rw [List.mem_cons, not_or] at h
    obtain ⟨result, rfl⟩ := Option.ne_none_iff_exists'.1 (Ne.symm h.1)
    obtain ⟨results, rfl⟩ := ih h.2
    exact ⟨result :: results, rfl⟩

theorem mapM_eq_some_iff {α β : Type} {f : α → Option β} {items : List α} {results : List β} :
    items.mapM f = some results ↔ items.map f = results.map some := by
  induction items generalizing results with
  | nil =>
    rw [List.mapM_nil, List.map_nil, eq_comm (a := []), List.map_eq_nil_iff, eq_comm (b := [])]
    exact Option.some_inj
  | cons item items ih =>
    rw [List.mapM_cons, List.map_cons]
    cases f item with
    | none => cases results <;> simp
    | some found =>
      cases results with
      | nil => cases items.mapM f <;> simp
      | cons result results =>
        rw [List.map_cons, List.cons.injEq, ← ih]
        cases items.mapM f <;> simp

namespace ForeignKey
variable {rows : List ForeignKeyRow} {columns : List Column} {name : String}

/-- The key of the rows of a group, if there are any. -/
def ofGroup? : List ForeignKeyRow → Option ForeignKey
  | [] => none
  | first :: rest => some (ofGroup first rest).value

theorem value_go (groups : List (List ForeignKeyRow)) : (ofRows.go groups).value = groups.filterMap ofGroup? := by
  induction groups with
  | nil => rfl
  | cons group more ih =>
    cases group with
    | nil => exact ih
    | cons first rest =>
      rw [ofRows.go, Traced.value_bind, Traced.value_bind, Traced.value_pure, ih]
      rfl

theorem value_ofRows (rows : List ForeignKeyRow) : (ofRows rows).value = (groups rows).filterMap ofGroup? :=
  value_go _

theorem mem_rowsOf {id : Int} {row : ForeignKeyRow} : row ∈ rowsOf id rows ↔ row ∈ rows ∧ row.id = id := by
  rw [rowsOf, mem_orderedBy, List.mem_filter, beq_iff_eq]

theorem flatMap_localColumns (groups : List (List ForeignKeyRow)) :
    (groups.filterMap ofGroup?).flatMap (·.localColumns) = groups.flatten.map (·.localColumn) := by
  induction groups with
  | nil => rfl
  | cons group groups ih =>
    cases group with
    | nil => exact ih
    | cons first rest =>
      change _ ++ (groups.filterMap ofGroup?).flatMap (·.localColumns) = _
      rw [ih, List.flatten_cons, List.map_append]
      rfl

theorem mem_localColumns :
    name ∈ (ofRows rows).value.flatMap (·.localColumns) ↔ ∃ row ∈ rows, row.localColumn = name := by
  have hm : ∀ row, row ∈ (groups rows).flatten ↔ row ∈ rows := by
    intro row
    simp only [groups, List.mem_flatten, List.mem_map, List.mem_eraseDups]
    constructor
    · rintro ⟨_, ⟨_, -, rfl⟩, hr⟩
      exact (mem_rowsOf.1 hr).1
    · exact fun hr => ⟨_, ⟨row.id, ⟨row, hr, rfl⟩, rfl⟩, mem_rowsOf.2 ⟨hr, rfl⟩⟩
  rw [value_ofRows, flatMap_localColumns, List.mem_map]
  simp only [hm]

theorem mem_ofRows {id : Int} {first : ForeignKeyRow} {rest : List ForeignKeyRow}
    (h : rowsOf id rows = first :: rest) : (ofGroup first rest).value ∈ (ofRows rows).value := by
  obtain ⟨hr, hi⟩ := mem_rowsOf.1 (h ▸ List.mem_cons_self)
  rw [value_ofRows, groups]
  refine List.mem_filterMap.2 ⟨first :: rest, List.mem_map.2 ⟨id, ?_, h⟩, rfl⟩
  exact List.mem_eraseDups.2 (List.mem_map.2 ⟨first, hr, hi⟩)

theorem mem_ofRows_iff {key : ForeignKey} :
    key ∈ (ofRows rows).value ↔
      ∃ id first rest, rowsOf id rows = first :: rest ∧ key = (ofGroup first rest).value := by
  constructor
  · intro h
    rw [value_ofRows, groups, List.filterMap_map, List.mem_filterMap] at h
    obtain ⟨id, -, h⟩ := h
    rw [Function.comp] at h
    cases e : rowsOf id rows with
    | nil =>
      rw [e] at h
      contradiction
    | cons first rest =>
      rw [e] at h
      exact ⟨id, first, rest, e, (Option.some.inj h).symm⟩
  · rintro ⟨id, first, rest, e, rfl⟩
    exact mem_ofRows e

theorem map_some_referencedColumnsOf (h : ∀ row ∈ rows, row.referencedColumn ≠ none) :
    (referencedColumnsOf rows).map some = rows.map (·.referencedColumn) := by
  have hm : none ∉ rows.map ForeignKeyRow.referencedColumn := by
    intro hm
    obtain ⟨row, hr, e⟩ := List.mem_map.1 hm
    exact h row hr e
  obtain ⟨names, hs⟩ := exists_map_some hm
  rw [referencedColumnsOf, mapM_eq_some_iff.2 hs, Option.getD_some, hs]

theorem referencedColumnsOf_of_missing {row : ForeignKeyRow} (hr : row ∈ rows) (hn : row.referencedColumn = none) :
    referencedColumnsOf rows = [] := by
  rw [referencedColumnsOf]
  cases h : rows.mapM ForeignKeyRow.referencedColumn with
  | none => rfl
  | some names =>
    have hm : none ∈ names.map some := mapM_eq_some_iff.1 h ▸ hn ▸ List.mem_map_of_mem hr
    simp at hm

/-- A key refers to columns if each of its rows names one. -/
theorem mem_referencedColumnsOf :
    name ∈ referencedColumnsOf rows ↔
      (∀ row ∈ rows, row.referencedColumn ≠ none) ∧ ∃ row ∈ rows, row.referencedColumn = some name := by
  by_cases h : ∀ row ∈ rows, row.referencedColumn ≠ none
  · have hm : name ∈ referencedColumnsOf rows ↔ some name ∈ (referencedColumnsOf rows).map some := by simp
    rw [hm, map_some_referencedColumnsOf h, List.mem_map, and_iff_right h]
  · obtain ⟨row, hr, hn⟩ : ∃ row ∈ rows, row.referencedColumn = none := by simpa using h
    rw [referencedColumnsOf_of_missing hr hn]
    exact iff_of_false (List.not_mem_nil) fun hm => h hm.1

theorem any_eq_iff : (columns.any fun column => column.name == name) = true ↔ name ∈ columns.map (·.name) := by
  simp [List.any_eq_true]

theorem unknownColumn?_eq_none_iff :
    unknownColumn? columns (ofRows rows).value = none ↔ ∀ row ∈ rows, row.localColumn ∈ columns.map (·.name) := by
  rw [unknownColumn?, List.find?_eq_none]
  simp only [Bool.not_eq_true', Bool.not_eq_false, any_eq_iff, mem_localColumns]
  exact ⟨fun h row hr => h _ ⟨row, hr, rfl⟩, fun h _ ⟨row, hr, e⟩ => e ▸ h row hr⟩

theorem of_unknownColumn? (h : unknownColumn? columns (ofRows rows).value = some name) :
    (∃ row ∈ rows, row.localColumn = name) ∧ name ∉ columns.map (·.name) := by
  refine ⟨mem_localColumns.1 (List.mem_of_find?_eq_some h), fun hm => ?_⟩
  have hn := List.find?_some h
  rw [any_eq_iff.2 hm] at hn
  contradiction

end ForeignKey

/-! ## Indexes -/

namespace Index

theorem value_ofRows (table : String) (rows : List IndexRow) :
    (ofRows table rows).value = rows.filterMap ofRow? := by
  induction rows with
  | nil => rfl
  | cons row rows ih =>
    rw [ofRows, List.filterMap_cons]
    cases ofRow? row with
    | none => exact ih
    | some index => exact congrArg (index :: ·) ih

theorem ofRow?_eq_some_iff {row : IndexRow} {index : Index} :
    ofRow? row = some index ↔
      row.columns = index.columns.map some ∧ index = ⟨row.name, row.unique, index.columns, row.isImplicit⟩ := by
  have hm : ∀ columns, row.columns.mapM id = some columns ↔ row.columns = columns.map some := by
    intro columns
    rw [mapM_eq_some_iff, List.map_id]
  rw [ofRow?, Option.map_eq_some_iff]
  simp only [hm]
  constructor
  · rintro ⟨columns, hc, rfl⟩
    exact ⟨hc, rfl⟩
  · rintro ⟨hc, hi⟩
    exact ⟨index.columns, hc, hi.symm⟩

end Index

/-! ## Tables -/

namespace Table
variable {name : String} {columnRows : List ColumnRow} {keyRows : List ForeignKeyRow} {indexRows : List IndexRow}

/-- The table that consistent rows describe. -/
def described (name : String) (columnRows : List ColumnRow) (keyRows : List ForeignKeyRow)
    (indexRows : List IndexRow) : Table where
  name := name
  columns := (orderedBy (·.ordinal) columnRows).map ColumnRow.column
  foreignKeys := (ForeignKey.ofRows keyRows).value
  indexes := (Index.ofRows name indexRows).value

theorem mem_columnNames {column : String} :
    column ∈ ((orderedBy (·.ordinal) columnRows).map ColumnRow.column).map (·.name) ↔
      column ∈ columnRows.map (·.name) := by
  rw [List.map_map]
  exact ((orderedBy_perm (·.ordinal) columnRows).map _).mem_iff

/-- Exactly the consistent rows are read, as the table that they describe. -/
theorem ofRows_eq_ok_iff {table : Table} :
    (ofRows name columnRows keyRows indexRows).value = .ok table ↔
      IsConsistent columnRows keyRows ∧ table = described name columnRows keyRows indexRows := by
  rw [ofRows]
  split
  · next cause hc =>
    refine iff_of_false (fun h => nomatch h) fun h => ?_
    rw [Column.ofRows_eq_ok_iff.2 ⟨⟨h.1.hasColumns, h.1.isNumbered⟩, rfl⟩] at hc
    contradiction
  · next columns hc =>
    obtain ⟨⟨hn, ho⟩, rfl⟩ := Column.ofRows_eq_ok_iff.1 hc
    rw [Traced.value_bind]
    split
    · next column hu =>
      obtain ⟨⟨key, hk, e⟩, hm⟩ := ForeignKey.of_unknownColumn? hu
      exact iff_of_false (fun h => nomatch h) fun h => hm (e ▸ mem_columnNames.2 (h.1.localColumns key hk))
    · next hu =>
      have hl : ∀ key ∈ keyRows, key.localColumn ∈ columnRows.map (·.name) := fun key hk =>
        mem_columnNames.1 (ForeignKey.unknownColumn?_eq_none_iff.1 hu key hk)
      rw [Traced.value_bind, Traced.value_pure, Except.ok.injEq]
      exact ⟨fun e => ⟨⟨hn, ho, hl⟩, e.symm⟩, fun h => h.2.symm⟩

/-- Rows that are not read are inconsistent, as the failure says. -/
theorem holds_of_ofRows {cause : Failure} (h : (ofRows name columnRows keyRows indexRows).value = .error cause) :
    ∃ inconsistency : Inconsistency, inconsistency.Holds columnRows keyRows ∧
      cause = .inconsistentMetadata name inconsistency := by
  rw [ofRows] at h
  split at h
  · next inconsistency hc =>
    exact ⟨inconsistency, Column.holds_of_ofRows keyRows hc, (Except.error.inj h).symm⟩
  · next columns hc =>
    obtain ⟨-, rfl⟩ := Column.ofRows_eq_ok_iff.1 hc
    rw [Traced.value_bind] at h
    split at h
    · next column hu =>
      obtain ⟨hk, hm⟩ := ForeignKey.of_unknownColumn? hu
      exact ⟨.unknownLocalColumn column, ⟨hk, fun hc => hm (mem_columnNames.2 hc)⟩, (Except.error.inj h).symm⟩
    · contradiction

end Table

/-! ## Sources -/

namespace Source
variable {source : Source} {name : String} {columns : List ColumnRow} {keys : List ForeignKeyRow}
  {indexes : List IndexRow}

/-- Why the table of a name cannot be read: a question about it fails, where the first such failure counts, or
all of them are answered with rows that describe no table. -/
inductive Skips (source : Source) (name : String) : Failure → Prop
  | columns {cause : Failure} (failed : source.columns name = .error cause) :
    Skips source name (.metadataUnavailable name cause)
  | foreignKeys {columns : List ColumnRow} {cause : Failure} (hasColumns : source.columns name = .ok columns)
    (failed : source.foreignKeys name = .error cause) : Skips source name (.metadataUnavailable name cause)
  | indexes {columns : List ColumnRow} {keys : List ForeignKeyRow} {cause : Failure}
    (hasColumns : source.columns name = .ok columns) (hasKeys : source.foreignKeys name = .ok keys)
    (failed : source.indexes name = .error cause) : Skips source name (.metadataUnavailable name cause)
  | rows {columns : List ColumnRow} {keys : List ForeignKeyRow} {indexes : List IndexRow} {cause : Inconsistency}
    (hasColumns : source.columns name = .ok columns) (hasKeys : source.foreignKeys name = .ok keys)
    (hasIndexes : source.indexes name = .ok indexes) (inconsistent : ¬ IsConsistent columns keys)
    (holds : cause.Holds columns keys) : Skips source name (.inconsistentMetadata name cause)

theorem readTable_congr {other : Source} (hc : source.columns name = other.columns name)
    (hk : source.foreignKeys name = other.foreignKeys name) (hi : source.indexes name = other.indexes name) :
    source.readTable name = other.readTable name := by
  rw [readTable, readTable, tableRows, tableRows, hc, hk, hi]

theorem tableRows_eq_ok_iff :
    source.tableRows name = .ok (columns, keys, indexes) ↔
      source.columns name = .ok columns ∧ source.foreignKeys name = .ok keys ∧ source.indexes name = .ok indexes := by
  rw [tableRows]
  cases source.columns name with
  | error cause => exact iff_of_false (fun h => nomatch h) fun h => nomatch h.1
  | ok columns =>
    cases source.foreignKeys name with
    | error cause => exact iff_of_false (fun h => nomatch h) fun h => nomatch h.2.1
    | ok keys =>
      cases source.indexes name with
      | error cause => exact iff_of_false (fun h => nomatch h) fun h => nomatch h.2.2
      | ok indexes => simp [bind, Except.bind, pure, Except.pure]

theorem skips_of_tableRows {cause : Failure} (h : source.tableRows name = .error cause) :
    source.Skips name (.metadataUnavailable name cause) := by
  rw [tableRows] at h
  cases hc : source.columns name with
  | error other =>
    rw [hc] at h
    exact .columns (Except.error.inj h ▸ hc)
  | ok columns =>
    cases hk : source.foreignKeys name with
    | error other =>
      rw [hc, hk] at h
      exact .foreignKeys hc (Except.error.inj h ▸ hk)
    | ok keys =>
      rw [hc, hk] at h
      cases hi : source.indexes name with
      | error other =>
        rw [hi] at h
        exact .indexes hc hk (Except.error.inj h ▸ hi)
      | ok indexes =>
        rw [hi] at h
        contradiction

theorem readTable_eq_ok_iff {table : Table} :
    (source.readTable name).value = .ok table ↔
      ∃ columns keys indexes, (source.columns name = .ok columns ∧ source.foreignKeys name = .ok keys ∧
        source.indexes name = .ok indexes) ∧ IsConsistent columns keys ∧
          table = .described name columns keys indexes := by
  rw [readTable]
  split
  · next cause h =>
    refine iff_of_false (fun h => nomatch h) fun ⟨columns, keys, indexes, ha, _⟩ => ?_
    rw [tableRows_eq_ok_iff.2 ha] at h
    contradiction
  · next columns keys indexes h =>
    rw [Table.ofRows_eq_ok_iff]
    constructor
    · exact fun hr => ⟨columns, keys, indexes, tableRows_eq_ok_iff.1 h, hr⟩
    · rintro ⟨_, _, _, ha, hr⟩
      rw [tableRows_eq_ok_iff.2 ha] at h
      cases h
      exact hr

theorem skips_of_readTable {cause : Failure} (h : (source.readTable name).value = .error cause) :
    source.Skips name cause := by
  rw [readTable] at h
  split at h
  · next other hr =>
    obtain rfl := Except.error.inj h
    exact skips_of_tableRows hr
  · next columns keys indexes hr =>
    obtain ⟨hc, hk, hi⟩ := tableRows_eq_ok_iff.1 hr
    obtain ⟨inconsistency, hh, rfl⟩ := Table.holds_of_ofRows h
    refine .rows hc hk hi (fun hn => ?_) hh
    rw [Table.ofRows_eq_ok_iff.2 ⟨hn, rfl⟩] at h
    contradiction

theorem not_skips_of_readTable {table : Table} (h : (source.readTable name).value = .ok table) (cause : Failure) :
    ¬ source.Skips name cause := by
  obtain ⟨columns, keys, indexes, ⟨hc, hk, hi⟩, hn, -⟩ := readTable_eq_ok_iff.1 h
  rintro (hf | ⟨-, hf⟩ | ⟨-, -, hf⟩ | ⟨hc', hk', -, hf, -⟩)
  · exact nomatch hc.symm.trans hf
  · exact nomatch hk.symm.trans hf
  · exact nomatch hi.symm.trans hf
  · obtain rfl := Except.ok.inj (hc.symm.trans hc')
    obtain rfl := Except.ok.inj (hk.symm.trans hk')
    exact hf hn

end Source

end CatalogDdl
