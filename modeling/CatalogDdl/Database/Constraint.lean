import CatalogDdl.Database.Schema

/-! # Constraints

The keys of a table, from the constraints of its columns and its own.

* `TableSchema.keyColumns`: the primary key. `TableSchema.rowNumber?`: the column that numbers the rows.
* `TableSchema.constraintIndexes`: the indexes that the key constraints make by themselves.
* `TableSchema.parentKey?`: the columns that a foreign key refers to.
-/

namespace CatalogDdl
set_option autoImplicit false

namespace TableSchema

/-! ## Primary keys -/

/-- The columns of a primary key as it is kept. A table without row numbers has no use for a column twice. -/
def keptKey (table : TableSchema) (columns : List String) : List String :=
  if table.withoutRowid then columns.eraseDups else columns

/-- The columns of the primary key, in the order of the key. -/
def keyColumns (table : TableSchema) : List String :=
  table.keptKey ((table.constraints.find? (·.origin == .primaryKey)).elim [] (·.columns))

/-- Whether a constraint is the number of the row itself: a primary key of one column of type `INTEGER`. -/
def isRowNumber (table : TableSchema) (constraint : KeyConstraint) : Bool :=
  match constraint with
  | ⟨.primaryKey, [name], false⟩ => (table.column? name).any (·.type == .standard "INTEGER")
  | _ => false

def rowNumber? (table : TableSchema) : Option String :=
  if table.withoutRowid then none
  else (table.constraints.find? table.isRowNumber).bind (·.columns.head?)

/-! ## Key constraints -/

/-- Adds a constraint. Constraints over the same columns share an index, which belongs to the primary key if
one of them is that. -/
def addConstraint (constraints : List KeyConstraint) (added : KeyConstraint) : List KeyConstraint :=
  if constraints.any (·.columns == added.columns) then
    constraints.map fun constraint =>
      if constraint.columns == added.columns && added.origin == .primaryKey then added else constraint
  else constraints ++ [added]

/-- The key constraints that have an index, in the order in which the indexes are made. The number of the row
needs none, unless the table has no row numbers: then it gets one after all others. -/
def indexedConstraints (table : TableSchema) : List KeyConstraint :=
  let indexed := table.constraints.filter (!table.isRowNumber ·) ++
    if table.withoutRowid then table.constraints.filter table.isRowNumber else []
  indexed.foldl addConstraint []

/-- The columns of the index of a constraint. -/
def keptColumns (table : TableSchema) (constraint : KeyConstraint) : List String :=
  if constraint.origin == .primaryKey then table.keptKey constraint.columns else constraint.columns

/-- The indexes of the key constraints, by number from 1. -/
def constraintIndexes (table : TableSchema) : List IndexRow :=
  table.indexedConstraints.zipIdx.map fun (constraint, number) =>
    { name := s!"{automaticStem}{table.name}_{number + 1}"
      unique := true
      origin := some constraint.origin
      columns := (table.keptColumns constraint).map some }

/-! ## Referenced keys -/

/-- The columns of a unique index over all rows, if it orders each of them by its own collation. -/
def uniqueColumns? (table : TableSchema) (index : IndexDefinition) : Option (List String) :=
  if !index.unique || index.filter.isSome || !sameName index.table table.name then none
  else
    (index.columns table).mapM fun member =>
      (member.name.bind table.column?).bind fun column =>
        if member.collation.all (· == column.collation) then some column.name else none

/-- The sets of columns that a foreign key can refer to by name. -/
def candidateKeys (table : TableSchema) (indexes : List IndexDefinition) : List (List String) :=
  table.rowNumber?.toList.map (fun name => [name]) ++ table.indexedConstraints.map table.keptColumns ++
    indexes.filterMap table.uniqueColumns?

/-- The columns of a key with the columns that refer to them by name, if there is one for each. -/
def matched? (key : SchemaKey) (referenced columns : List String) : Option (List (String × String)) :=
  if columns.length != key.columns.length then none
  else
    columns.mapM fun column =>
      ((referenced.zip key.columns).find? (sameName ·.1 column)).map fun (_, own) => (column, own)

/-- The columns that a foreign key refers to, each with the column that refers to it. There are none if they are
not a key of the table. -/
def parentKey? (table : TableSchema) (indexes : List IndexDefinition) (key : SchemaKey) :
    Option (List (String × String)) :=
  match key.referenced with
  | some referenced => (table.candidateKeys indexes).findSome? (matched? key referenced)
  | none =>
    if table.keyColumns.length == key.columns.length && !key.columns.isEmpty then
      some (table.keyColumns.zip key.columns)
    else none

end TableSchema

end CatalogDdl
