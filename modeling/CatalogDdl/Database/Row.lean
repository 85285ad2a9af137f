import CatalogDdl.Database.Constraint
import CatalogDdl.Database.Expression.Evaluation

/-! # Rows

The rows of a table, with a value for each column.

* `StoredRow`: a row with its number. `StoredTable`: a table with its rows.
* `TableSchema.scope`: the cells of a row by name. `TableSchema.completed` computes its generated columns.
* `TableSchema.defaultRows`: new rows of default values.
* `TableSchema.assigned`: a row after some of its values are set.
-/

namespace CatalogDdl
set_option autoImplicit false

/-- A row. The values stand in the order of the columns. -/
structure StoredRow where
  number : Int
  values : List Value
deriving DecidableEq, Repr

/-- A table with its rows. -/
structure StoredTable where
  schema : TableSchema
  rows : List StoredRow

namespace StoredTable

def name (table : StoredTable) : String :=
  table.schema.name

def lastNumber (table : StoredTable) : Int :=
  (table.rows.map (·.number)).max?.getD 0

end StoredTable

namespace SchemaColumn

def affinity (column : SchemaColumn) : Affinity :=
  column.type.affinity

def defaultValue (column : SchemaColumn) : Value :=
  column.default.elim .null fun (_, value) => value.evaluate fun _ => none

end SchemaColumn

namespace TableSchema

/-! ## Values -/

def scope (table : TableSchema) (values : List Value) : Scope := fun name =>
  ((table.columns.zip values).find? (sameName ·.1.name name)).map fun (column, value) =>
    ⟨value, column.affinity, column.collation⟩

/-- Computes each generated column from the values that are there. -/
def generated (table : TableSchema) (values : List Value) : List Value :=
  table.columns.zipWith (fun column value =>
    match column.generated with
    | some expression => column.affinity.stored (expression.evaluate (table.scope values))
    | none => value) values

/-- Computes the generated columns, each of which may need others. -/
def completed (table : TableSchema) (values : List Value) : List Value :=
  Nat.repeat table.generated (table.columns.filter (·.generated.isSome)).length values

/-! ## New rows -/

def numbersRows (table : TableSchema) (column : String) : Bool :=
  table.rowNumber?.any (sameName · column)

def defaultRow (table : TableSchema) (number : Int) : StoredRow :=
  let values := table.columns.map fun column =>
    if table.numbersRows column.name then .integer number
    else if column.generated.isSome then .unknown
    else column.affinity.stored column.defaultValue
  ⟨number, table.completed values⟩

/-- New rows with the numbers after a last one. -/
def defaultRows (table : TableSchema) (last : Int) (count : Nat) : List StoredRow :=
  (List.range count).map fun (place : Nat) => table.defaultRow (last + place + 1)

/-! ## Changed rows -/

/-- A row after the values of some columns are set. A row changes its number with the column that holds it. -/
def assigned (table : TableSchema) (row : StoredRow) (changes : List (String × Value)) : StoredRow :=
  let given (column : String) : Option Value := (changes.find? (sameName ·.1 column)).map (·.2)
  let values := table.columns.zipWith (fun column value =>
    if column.generated.isSome then .unknown
    else (given column.name).elim value column.affinity.stored) row.values
  let number := (table.rowNumber?.bind given).bind fun value =>
    match Affinity.stored .integer value with
    | .integer number => some number
    | _ => none
  ⟨number.getD row.number, table.completed values⟩

end TableSchema

end CatalogDdl
