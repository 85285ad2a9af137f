import CatalogDdl.Proofs.Table.Grouping

/-! # Which rows are accepted

Rows from a catalogue either describe a table or they contradict each other.

* `Table.HasColumnsOf`: a table whose columns are the rows of a catalogue, each at the place that its ordinal says.
* `Table.KeysAreLocal`: a table whose foreign keys are over its own columns, in pairs if they name any others.
* `Table.ofRows_accepts`: exactly the consistent rows are accepted, and the tables that they make are of this form.
-/

namespace CatalogDdl
set_option autoImplicit false

namespace Table

/-- A column that says what a row says. -/
structure Translates (row : ColumnRow) (column : Column) : Prop where
  name : column.name = row.name
  declared : column.declared = .parse row.rawType
  notNull : column.notNull = row.notNull
  defaultText : column.defaultText = row.defaultText
  isKeyMember_iff : column.isKeyMember = true ↔ 0 < row.keyPosition

/-- The column at a place is made of the one row that has the place as its ordinal. -/
structure HasColumnsOf (columnRows : List ColumnRow) (table : Table) : Prop where
  length_eq : table.columns.length = columnRows.length
  at_place : ∀ (place : Nat) (column : Column), table.columns[place]? = some column →
    column.ordinal = place ∧ ∃ row, (columnRows.filter fun other => other.ordinal = (place : Int)) = [row] ∧
      column = row.toColumn place ∧ Translates row column

structure KeysAreLocal (table : Table) : Prop where
  some_column : ∀ key ∈ table.foreignKeys, key.localColumns ≠ []
  own_columns : ∀ key ∈ table.foreignKeys, ∀ name ∈ key.localColumns, name ∈ table.columns.map (·.name)
  in_pairs : ∀ key ∈ table.foreignKeys,
    key.referencedColumns = [] ∨ key.referencedColumns.length = key.localColumns.length

end Table

/-! ## Columns -/

namespace IsNumbered
variable {rows : List ColumnRow}

theorem ordinal_of_getElem? (h : IsNumbered rows) {place : Nat} {row : ColumnRow}
    (hr : (orderedBy (·.ordinal) rows)[place]? = some row) : row.ordinal = place := by
  have hb : place < rows.length := by
    rw [← length_orderedBy (·.ordinal) rows]
    exact (List.getElem?_eq_some_iff.1 hr).1
  have hp := congrArg (·[place]?) h.map_orderedBy
  simp only [List.getElem?_map, hr, Option.map_some, List.getElem?_range hb, Option.some.injEq] at hp
  exact hp

end IsNumbered

namespace Table
variable {name : String} {columnRows : List ColumnRow} {keyRows : List ForeignKeyRow} {indexRows : List IndexRow}

theorem hasColumnsOf_described (h : IsNumbered columnRows) (name : String) (keyRows : List ForeignKeyRow)
    (indexRows : List IndexRow) : HasColumnsOf columnRows (described name columnRows keyRows indexRows) where
  length_eq := by rw [described, List.length_map, length_orderedBy]
  at_place := by
    intro place column hc
    rw [described, List.getElem?_map, Option.map_eq_some_iff] at hc
    obtain ⟨row, hr, rfl⟩ := hc
    have ho := h.ordinal_of_getElem? hr
    have hf := filter_eq_singleton h.nodup (mem_orderedBy.1 (List.mem_of_getElem? hr))
    have ht : row.column = row.toColumn place := by rw [ColumnRow.column, ho, Int.toNat_natCast]
    rw [ho] at hf
    rw [ht]
    exact ⟨rfl, row, hf, rfl, rfl, rfl, rfl, rfl, decide_eq_true_iff⟩

/-! ## Foreign keys -/

theorem keysAreLocal_described (h : IsConsistent columnRows keyRows) (name : String) (indexRows : List IndexRow) :
    KeysAreLocal (described name columnRows keyRows indexRows) where
  some_column := by
    intro key hk
    obtain ⟨id, first, rest, -, rfl⟩ := ForeignKey.mem_ofRows_iff.1 hk
    exact List.cons_ne_nil _ _
  own_columns := by
    intro key hk name hn
    obtain ⟨row, hr, rfl⟩ := ForeignKey.mem_localColumns.1 (List.mem_flatMap.2 ⟨key, hk, hn⟩)
    exact mem_columnNames.2 (h.localColumns row hr)
  in_pairs := by
    intro key hk
    obtain ⟨id, first, rest, e, rfl⟩ := ForeignKey.mem_ofRows_iff.1 hk
    obtain ⟨group, -, hl, hr⟩ := (ForeignKey.isOf_ofGroup (e ▸ ForeignKey.isGroup_rowsOf id keyRows)).columns
    by_cases hn : (ForeignKey.ofGroup first rest).value.referencedColumns = []
    · exact .inl hn
    · have hg := congrArg List.length (hr hn)
      rw [List.length_map, List.length_map] at hg
      rw [hl, List.length_map]
      exact .inr hg

/-! ## Tables -/

/-- **Exactly the consistent rows are accepted**, whatever the indexes are. All others are refused for what is
inconsistent about them. -/
theorem ofRows_accepts (name : String) (columnRows : List ColumnRow) (keyRows : List ForeignKeyRow)
    (indexRows : List IndexRow) :
    ((∃ table, (ofRows name columnRows keyRows indexRows).value = .ok table) ↔ IsConsistent columnRows keyRows) ∧
      (∀ cause, (ofRows name columnRows keyRows indexRows).value = .error cause →
        ∃ inconsistency : Inconsistency, cause = .inconsistentMetadata name inconsistency ∧
          inconsistency.Holds columnRows keyRows) ∧
      ∀ table, (ofRows name columnRows keyRows indexRows).value = .ok table →
        table.name = name ∧ table.HasColumnsOf columnRows ∧ table.KeysAreLocal := by
  refine ⟨⟨?_, fun h => ⟨_, ofRows_eq_ok_iff.2 ⟨h, rfl⟩⟩⟩, fun cause h => ?_, fun table h => ?_⟩
  · rintro ⟨table, h⟩
    exact (ofRows_eq_ok_iff.1 h).1
  · obtain ⟨inconsistency, hh, rfl⟩ := holds_of_ofRows h
    exact ⟨inconsistency, rfl, hh⟩
  · obtain ⟨hc, rfl⟩ := ofRows_eq_ok_iff.1 h
    exact ⟨rfl, hasColumnsOf_described hc.isNumbered name keyRows indexRows,
      keysAreLocal_described hc name indexRows⟩

end Table

end CatalogDdl
