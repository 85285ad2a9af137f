import CatalogDdl.Proofs.Table.Reading
import CatalogDdl.Proofs.Table.RoundTrip

/-! # Where the primary key stands

The primary key of a table is declared once: at its column if it has one column, and by a clause of its own, behind
the columns and before the foreign keys, if it has several. Only the mark of the key makes the mark `NOT NULL` needless.
Marks stand between the type of a column and its default. What follows `DEFAULT` is the text of the default.

* `Table.members`: the columns of the key.
* `Column.IsMarked`, `Table.PlacesKey`: declarations that mark columns, and place the key, by this rule.
* `Table.placesKey_clauses`: the clauses of a statement do so if the columns of the table have different names.
-/

namespace CatalogDdl
set_option autoImplicit false
open Sql

/-! ## Declarations of keys -/

/-- The key that a clause declares: a column that is marked as the key, or the columns of a clause of its own. -/
def Sql.ClauseDeclaration.key? : ClauseDeclaration → Option (List String)
  | .column declared => if declared.isKey then some [declared.name] else none
  | .key columns => some columns
  | .reference _ => none

/-- The columns of the primary key, in the order of the columns of the table. -/
def Table.members (table : Table) : List Column :=
  table.columns.filter (·.isKeyMember)

/-- The declaration of a column in a table with these key columns. -/
structure Column.IsMarked (members : List Column) (column : Column) (declared : ColumnDeclaration) : Prop where
  name : declared.name = column.name
  isKey : declared.isKey = true ↔ members = [column]
  notNull : declared.notNull = true ↔ column.notNull = true ∧ members ≠ [column]
  not_both : ¬ (declared.isKey = true ∧ declared.notNull = true)

/-- Declarations of the clauses of a table: its columns, its key if that has several columns, and its foreign keys. -/
structure Table.PlacesKey (table : Table) (declared : List ClauseDeclaration) : Prop where
  once : declared.filterMap ClauseDeclaration.key? =
    if table.members = [] then [] else [table.members.map (·.name)]
  places : ∃ columns references, declared = columns.map .column ++
      (if 2 ≤ table.members.length then [.key (table.members.map (·.name))] else []) ++ references.map .reference ∧
    List.Forall₂ (Column.IsMarked table.members) table.columns columns ∧
    List.Forall₂ (fun key reference => reference = ForeignKey.declaration key) table.foreignKeys references
  ascend : table.columns.Pairwise (fun a b => a.ordinal < b.ordinal) →
    table.members.Pairwise fun a b => a.ordinal < b.ordinal

/-! ## Columns with names of their own -/

theorem filterMap_ite {α β : Type} (p : α → Bool) (f : α → β) (items : List α) :
    items.filterMap (fun item => if p item then some (f item) else none) = (items.filter p).map f := by
  induction items with
  | nil => rfl
  | cons first rest ih =>
    cases h : p first <;> simp [h, ih]

namespace Table
variable {table : Table}

theorem keyColumns_eq (table : Table) : table.keyColumns = table.members.map (·.name) := rfl

theorem keyColumns_eq_singleton_iff (hn : (table.columns.map (·.name)).Nodup) {column : Column}
    (hc : column ∈ table.columns) : table.keyColumns = [column.name] ↔ table.members = [column] := by
  rw [keyColumns_eq]
  constructor
  · intro h
    -- The member has the name of the column, and there is only one column of this name.
    obtain ⟨member, more, hm, hname, hmore⟩ := List.map_eq_cons_iff.1 h
    rw [List.map_eq_nil_iff] at hmore
    have hmem : member ∈ table.columns := (List.mem_filter.1 (hm ▸ List.mem_cons_self)).1
    rw [hm, hmore, List.inj_on_of_nodup_map hn hmem hc hname]
  · intro h
    rw [h]
    rfl

theorem isMarked_declaration (hn : (table.columns.map (·.name)).Nodup) {column : Column}
    (hc : column ∈ table.columns) : column.IsMarked table.members (column.declaration table.keyColumns) := by
  have hk : (table.keyColumns == [column.name]) = true ↔ table.members = [column] := by
    rw [beq_iff_eq, keyColumns_eq_singleton_iff hn hc]
  have hb : (table.keyColumns != [column.name]) = true ↔ table.members ≠ [column] := by
    rw [bne_iff_ne, Ne, keyColumns_eq_singleton_iff hn hc]
  have hm : (column.declaration table.keyColumns).notNull = true ↔
      column.notNull = true ∧ table.members ≠ [column] := by
    rw [← hb]
    exact Bool.and_eq_true_iff
  exact ⟨rfl, hk, hm, fun h => (hm.1 h.2).2 (hk.1 h.1)⟩

theorem filter_marked (hn : (table.columns.map (·.name)).Nodup) :
    (table.columns.filter fun column => table.keyColumns == [column.name]) =
      if table.members.length = 1 then table.members else [] := by
  split
  · next hl =>
    obtain ⟨member, hm⟩ := List.length_eq_one_iff.1 hl
    have hmem : member ∈ table.columns := (List.mem_filter.1 (hm ▸ List.mem_cons_self)).1
    rw [hm, ← filter_eq_singleton hn hmem, keyColumns_eq, hm]
    refine List.filter_congr fun column _ => ?_
    simp [beq_eq_decide, eq_comm]
  · next hl =>
    refine List.filter_eq_nil_iff.2 fun column hc hk => hl ?_
    rw [(keyColumns_eq_singleton_iff hn hc).1 (eq_of_beq hk)]
    rfl

/-! ## Statements -/

theorem key?_columns (hn : (table.columns.map (·.name)).Nodup) :
    (table.declaration.columns.map ClauseDeclaration.column).filterMap ClauseDeclaration.key? =
      if table.members.length = 1 then table.members.map fun column => [column.name] else [] := by
  rw [declaration, List.map_map, List.filterMap_map]
  change table.columns.filterMap (fun column =>
    if table.keyColumns == [column.name] then some [column.name] else none) = _
  rw [filterMap_ite, filter_marked hn]
  split <;> rfl

theorem key?_declarations (hn : (table.columns.map (·.name)).Nodup) :
    table.declarations.filterMap ClauseDeclaration.key? =
      if table.members = [] then [] else [table.members.map (·.name)] := by
  have hk : (table.declaration.key.toList.map ClauseDeclaration.key).filterMap ClauseDeclaration.key? =
      table.declaration.key.toList := by
    rw [List.filterMap_map]
    exact List.filterMap_some
  have hr : (table.declaration.references.map ClauseDeclaration.reference).filterMap ClauseDeclaration.key? = [] := by
    rw [List.filterMap_map]
    exact List.filterMap_eq_nil_iff.2 fun _ _ => rfl
  rw [declarations, List.filterMap_append, List.filterMap_append, key?_columns hn, hk, hr, List.append_nil]
  rw [declaration, keyColumns_eq]
  cases table.members with
  | nil => rfl
  | cons member more =>
    cases more <;> simp

theorem placesKey_declarations (hn : (table.columns.map (·.name)).Nodup) : table.PlacesKey table.declarations where
  once := key?_declarations hn
  places := by
    refine ⟨table.declaration.columns, table.declaration.references, ?_, ?_, ?_⟩
    · rw [declarations, declaration, keyColumns_eq, List.length_map]
      split <;> rfl
    · rw [declaration, List.forall₂_map_right_iff, List.forall₂_same]
      exact fun column hc => isMarked_declaration hn hc
    · rw [declaration, List.forall₂_map_right_iff, List.forall₂_same]
      exact fun _ _ => rfl
  ascend := fun h => h.filter _

/-- **The primary key is declared once, where it belongs**, by the clauses of a statement as they are read. -/
theorem placesKey_clauses (hn : (table.columns.map (·.name)).Nodup) :
    table.createStatement = "CREATE TABLE IF NOT EXISTS " ++ plainIdentifier table.name ++ " (" ++
        ", ".intercalate (table.clauses.map Clause.sql) ++ ");" ∧
      ∃ declared, (table.clauses.map (·.sql.toList)).mapM readClause = some declared ∧ table.PlacesKey declared :=
  ⟨createTable_eq_join _ _, _, table.mapM_clauses, placesKey_declarations hn⟩

/-- The first and the last of three columns are the key, so that the clause stands in the fourth place. -/
theorem placesKey_clauses_entangled :
    (entangled.columns.map (·.name)).Nodup ∧
      ∃ declared, (entangled.clauses.map (·.sql.toList)).mapM readClause = some declared ∧
        entangled.PlacesKey declared ∧
        declared.map ClauseDeclaration.key? = [none, none, none, some ["a\" TEXT, \"b", "line\nbreak"], none] := by
  have hn : (entangled.columns.map (·.name)).Nodup := by decide
  obtain ⟨-, declared, hd, hp⟩ := placesKey_clauses hn
  obtain rfl : entangled.declarations = declared := Option.some.inj (entangled.mapM_clauses.symm.trans hd)
  exact ⟨hn, _, hd, hp, by decide⟩

end Table

end CatalogDdl
