import CatalogDdl.Database.Change

/-! # Relations

What a name stands for in a database: a table, or a view.

* `Database.ownTables`: the tables that the database keeps about itself.
* `Relation`: a table or view with the number of its rows; `Relation.viewed` is a view of all of it.
* `Database.relation`: follows views up to a table. A view that leads back to itself, or to no table, fails.
-/

namespace CatalogDdl
set_option autoImplicit false

/-! ## Views -/

/-- A column of a view. -/
structure ViewColumn where
  name : String
  type : TypeName
deriving DecidableEq, Repr

namespace ViewColumn

/-- A name without a number after a colon at its end. -/
def withoutNumber (name : List Char) : List Char :=
  let digits := ((name.drop 1).reverse.takeWhile Char.isDigit).length
  match (name.reverse.drop digits) with
  | ':' :: stem => stem.reverse
  | _ => name

/-- A name that is not taken. While a name is, it gets the next number after a colon. -/
def freeName (taken : List String) (number : Nat) (tries : Nat) (name : String) : String :=
  match tries with
  | 0 => name
  | tries + 1 =>
    if taken.any (sameName · name) then
      freeName taken (number + 1) tries (String.ofList (withoutNumber name.toList) ++ s!":{number}")
    else name

/-- The name of a column of a view, by its place. The words for true and false are no names. -/
def plainName (place : Nat) (name : String) : String :=
  if sameName name "true" || sameName name "false" then s!"column{place + 1}" else name

/-- The columns of a view of some columns. No two names are the same, and a column without a type gets one. -/
def viewed (columns : List ViewColumn) : List ViewColumn :=
  columns.zipIdx.foldl (fun before (column, place) =>
    before ++ [{
      name := freeName (before.map (·.name)) 1 columns.length (plainName place column.name)
      type := if column.type == .missing then .standard "BLOB" else column.type }]) []

end ViewColumn

/-! ## Relations -/

/-- A table or a view, with the number of its rows. -/
inductive Relation
  | table (schema : TableSchema) (rows : Nat)
  | view (columns : List ViewColumn) (rows : Nat)

namespace Relation

def ofTable (table : StoredTable) : Relation :=
  .table table.schema table.rows.length

def rows : Relation → Nat
  | table _ rows | view _ rows => rows

def columns : Relation → List ViewColumn
  | table schema _ => schema.columns.map fun column => ⟨column.name, column.type⟩
  | view columns _ => columns

def viewed (relation : Relation) : Relation :=
  view (ViewColumn.viewed relation.columns) relation.rows

end Relation

namespace Database

/-! ## Own tables -/

def plainTable (name : String) (columns : List (String × TypeName)) : TableSchema where
  name := name
  columns := columns.map fun (column, type) => .plain column type
  constraints := []
  foreignKeys := []
  isNumbered := false
  withoutRowid := false

def schemaTable (name : String) : TableSchema :=
  plainTable name
    [("type", .standard "TEXT"), ("name", .standard "TEXT"), ("tbl_name", .standard "TEXT"),
      ("rootpage", .standard "INT"), ("sql", .standard "TEXT")]

/-- The number of indexes of a table that have an entry of their own in the schema. -/
def schemaIndexes (table : TableSchema) : Nat :=
  (table.indexedConstraints.filter fun constraint =>
    !table.withoutRowid || constraint.origin != .primaryKey).length

def schemaSize (database : Database) : Nat :=
  database.tables.length + database.indexes.length + database.views.length + database.counters.toList.length +
    database.tables.foldr (fun table size => schemaIndexes table.schema + size) 0

/-- The tables that the database keeps about itself, with the numbers of their rows. -/
def ownTables (database : Database) : List (TableSchema × Nat) :=
  ["sqlite_master", "sqlite_schema"].map (fun name => (schemaTable name, database.schemaSize)) ++
    (database.counters.map fun counters =>
      (plainTable counterTable [("name", .missing), ("seq", .missing)], counters.length)).toList

/-- The tables that the database keeps about what lasts no longer than a connection. -/
def passingTables : List TableSchema :=
  ["sqlite_temp_master", "sqlite_temp_schema"].map schemaTable

/-- A table that lasts, of whichever kind. -/
def storedTable? (database : Database) (name : String) : Option Relation :=
  ((database.table? name).map .ofTable).or
    ((database.ownTables.find? (sameName ·.1.name name)).map fun (table, rows) => .table table rows)

/-! ## Look-up -/

/-- Follows the views that are left from the name that a view selects from. -/
def follow (database : Database) (views : List ViewDefinition) (name : String) : Except SourceFault Relation :=
  match _h : views.find? (sameName ·.name name) with
  | some view => (database.follow (views.erase view) view.table).map (·.viewed)
  | none =>
    match database.view? name, database.storedTable? name with
    | some view, _ => .error (.circularView view.name)
    | none, some table => .ok table
    | none, none => .error (.noSuchTable s!"main.{name}")
termination_by views.length
decreasing_by
  have hm := List.mem_of_find?_eq_some _h
  have := List.length_erase_of_mem hm
  have := List.length_pos_of_mem hm
  omega

/-- What a name stands for, if it stands for anything. -/
def relation (database : Database) (name : String) : Except SourceFault (Option Relation) :=
  match database.view? name with
  | some _ => (database.follow database.views name).map some
  | none =>
    let passing := (passingTables.find? (sameName ·.name name)).map (Relation.table · 0)
    .ok ((database.storedTable? name).or passing)

end Database

end CatalogDdl
