import CatalogDdl.Database.Basic

/-! # Dependent rows

What happens to the rows that refer to a row when that row is removed or changed.

* `Dependence`: a foreign key with the columns that it refers to. `Database.dependences` finds those on a table.
* `Dependence.consequence`: what a change of a row means for the rows that refer to it.
* `Database.changeRow`: changes a row, and all rows that depend on it.
-/

namespace CatalogDdl
set_option autoImplicit false

/-- A change of a row. -/
inductive RowChange
  | remove
  | assign (values : List (String × Value))

/-- The row that is left after a change. -/
def RowChange.result (table : TableSchema) (row : StoredRow) : RowChange → Option StoredRow
  | remove => none
  | assign values => some (table.assigned row values)

/-- A foreign key of the table `child`. Each column that it refers to stands with the one that refers to it. -/
structure Dependence where
  parent : TableSchema
  child : TableSchema
  key : SchemaKey
  columns : List (String × String)

namespace Dependence

/-! ## Rows that refer to a row -/

/-- The affinity under which a column is compared with the one that refers to it. -/
def affinity (dependence : Dependence) (column : String) (own : Cell) : Affinity :=
  if dependence.parent.numbersRows column then .numeric else own.affinity

/-- Whether a row refers to another one. No row refers by null. -/
def refers (dependence : Dependence) (parent child : StoredRow) : Bool :=
  dependence.columns.all fun (column, own) =>
    match dependence.parent.scope parent.values column, dependence.child.scope child.values own with
    | some referenced, some own =>
      Value.isAlike (dependence.affinity column own) referenced.collation referenced.value own.value
    | _, _ => false

/-! ## Consequences -/

def isKept (dependence : Dependence) (before after : StoredRow) : Bool :=
  dependence.columns.all fun (column, _) =>
    match dependence.parent.scope before.values column, dependence.parent.scope after.values column with
    | some old, some new => old.value == new.value || Value.isAlike .blob old.collation old.value new.value
    | _, _ => false

def effect (dependence : Dependence) (after : Option StoredRow) : Action → Option RowChange
  | .noAction | .restrict => none
  | .setNull => some (.assign (dependence.columns.map fun (_, own) => (own, .null)))
  | .setDefault =>
    some (.assign (dependence.columns.map fun (_, own) =>
      (own, (dependence.child.column? own).elim .null (·.defaultValue))))
  | .cascade =>
    match after with
    | none => some .remove
    | some after =>
      some (.assign (dependence.columns.map fun (column, own) =>
        (own, (dependence.parent.scope after.values column).elim .null (·.value))))

/-- What happens to the rows that refer to a row when it changes. -/
def consequence (dependence : Dependence) (before : StoredRow) (after : Option StoredRow) : Option RowChange :=
  match after with
  | none => dependence.effect none dependence.key.onDelete
  | some row =>
    if dependence.isKept before row then none else dependence.effect after dependence.key.onUpdate

end Dependence

namespace Database

/-- The foreign keys on a table, the last declared one first. -/
def dependences (database : Database) (parent : TableSchema) : List Dependence :=
  (database.tables.flatMap fun table =>
    (table.schema.foreignKeys.filter (sameName ·.table parent.name)).filterMap fun key =>
      (parent.parentKey? database.indexes key).map (⟨parent, table.schema, key, ·⟩)).reverse

def dependents (database : Database) (dependence : Dependence) (row : StoredRow) : List Int :=
  ((database.table? dependence.child.name).elim [] (·.rows)).filterMap fun child =>
    if dependence.refers row child then some child.number else none

/-- Changes the row of a number, and the rows that depend on it over at most `depth` foreign keys. -/
def changeRow : Nat → Database → TableSchema → Int → RowChange → Database
  | 0, database, _, _, _ => database
  | depth + 1, database, table, number, change =>
    match ((database.table? table.name).elim [] (·.rows)).find? (·.number == number) with
    | none => database
    | some row =>
      let after := change.result table row
      let changed := database.setRows table.name fun rows =>
        rows.flatMap fun other => if other.number == number then after.toList else [other]
      (database.dependences table).foldl (fun database dependence =>
        match dependence.consequence row after with
        | none => database
        | some change =>
          (database.dependents dependence row).foldl
            (fun database number => database.changeRow depth dependence.child number change) database) changed

/-- The number of foreign keys over which a change can go. -/
def longestChain : Nat :=
  1000

/-- Removes all rows of a table, and changes those that depend on them. -/
def removeRows (database : Database) (table : StoredTable) : Database :=
  if (database.dependences table.schema).isEmpty then database.setRows table.name fun _ => []
  else
    table.rows.foldl (fun database row =>
      database.changeRow longestChain table.schema row.number .remove) database

end Database

end CatalogDdl
