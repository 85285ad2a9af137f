import CatalogDdl.Catalog.Source
import CatalogDdl.Database.Relation
import CatalogDdl.Ordering
import CatalogDdl.Sql.Quoting

/-! # Inspecting databases

What an SQLite database reports about its tables, as a `Source`.

* `Relation.columnRows`: the columns of a table or view.
* `TableSchema.foreignKeyRows`: the foreign keys of a table.
* `Database.indexRows`: all indexes of a table, the newest first.
* `Database.source`: the answers of a database under a given name.
-/

namespace CatalogDdl
set_option autoImplicit false

/-! ## Columns -/

namespace TableSchema

/-- The columns that are reported: all but the generated ones. -/
def reportedColumns (table : TableSchema) : List SchemaColumn :=
  table.columns.filter (·.generated.isNone)

/-- The place of a column in the primary key from 1, or 0. -/
def keyPosition (table : TableSchema) (name : String) : Nat :=
  match table.keyColumns.findIdx? (sameName · name) with
  | some place => place + 1
  | none => 0

def columnRow (table : TableSchema) (column : SchemaColumn) (ordinal : Nat) : Except SourceFault ColumnRow := do
  let position := table.keyPosition column.name
  .ok {
    ordinal := ordinal
    name := column.name
    rawType := ← column.type.text
    notNull := column.notNull || (table.withoutRowid && position != 0)
    defaultText := column.default.map (·.1)
    keyPosition := position }

def columnRows (table : TableSchema) : Except SourceFault (List ColumnRow) :=
  table.reportedColumns.zipIdx.mapM fun (column, ordinal) => table.columnRow column ordinal

end TableSchema

/-- A column of a view. It has no constraints and no default. -/
def ViewColumn.row (column : ViewColumn) (ordinal : Nat) : Except SourceFault ColumnRow := do
  .ok {
    ordinal := ordinal
    name := column.name
    rawType := ← column.type.text
    notNull := false
    defaultText := none
    keyPosition := 0 }

def Relation.columnRows : Relation → Except SourceFault (List ColumnRow)
  | table schema _ => schema.columnRows
  | view columns _ => columns.zipIdx.mapM fun (column, ordinal) => column.row ordinal

namespace TableSchema

/-! ## Keys -/

def keyRows (id : Nat) (key : SchemaKey) : List ForeignKeyRow :=
  key.columns.zipIdx.map fun (name, seq) =>
    { id := id
      seq := seq
      referencedTable := key.table
      localColumn := name
      referencedColumn := key.referenced.bind (·[seq]?)
      onUpdate := some key.onUpdate.sql
      onDelete := some key.onDelete.sql }

/-- The rows of all foreign keys, the last declared key first. -/
def foreignKeyRows (table : TableSchema) : List ForeignKeyRow :=
  table.foreignKeys.reverse.zipIdx.flatMap fun (key, id) => keyRows id key

def createdIndexRow (table : TableSchema) (index : IndexDefinition) : IndexRow where
  name := index.name
  unique := index.unique
  origin := some .createIndex
  columns := (index.columns table).map (·.name)

end TableSchema

namespace Database

/-- The indexes of a table, the newest first. -/
def indexRows (database : Database) (table : TableSchema) : List IndexRow :=
  let created := database.indexes.filter (sameName ·.table table.name)
  (table.constraintIndexes ++ created.map table.createdIndexRow).reverse

/-! ## Names -/

/-- Whether a name belongs to the database itself: it begins with `sqlite_`, in any case. -/
def isInternal (name : String) : Bool :=
  "sqlite_".toList.isPrefixOf (name.toList.map Char.toLower)

def tableNames (database : Database) : List String :=
  let names := database.tables.map (·.name) ++ database.ownTables.map (·.1.name)
  orderedBy id (names.filter (!isInternal ·))

/-! ## Questions -/

/-- The part of a text that is read as a name: it ends at a null character. -/
def nameIn (text : String) : String :=
  String.ofList (text.toList.takeWhile (· != '\x00'))

/-- The columns of a table or view; an unknown one has none. -/
def columnsOf (database : Database) (name : String) : Except Failure (List ColumnRow) :=
  let rows := do
    match ← database.relation (nameIn name) with
    | some relation => relation.columnRows
    | none => .ok []
  rows.mapError .source

/-- The rows that the database reports about a table. About anything else it reports none. -/
def rowsAbout {α : Type} (database : Database) (name : String) (rows : TableSchema → List α) :
    List α :=
  match database.table? (nameIn name) with
  | some table => rows table.schema
  | none => []

/-- The beginning of the statement that counts rows, up to the name. -/
def countStart : String :=
  "select count(*) from "

/-- The statement that counts the rows of a table or view. -/
def countStatement (name : String) : String :=
  countStart ++ Sql.identifier name ++ ";"

/-- The number of rows of a table or view. A null character ends the statement within the name. -/
def countRows (database : Database) (name : String) : Except Failure Nat :=
  if name.toList.contains '\x00' then
    let token := nameIn (Sql.identifier name)
    .error (.source (.unknownToken token (countStatement name) countStart.length))
  else
    match database.relation name with
    | .error fault => .error (.source fault)
    | .ok (some relation) => .ok relation.rows
    | .ok none => .error (.source (.noSuchTable name))

def source (database : Database) (name : String) : Source where
  databaseName := name
  tableNames := .ok database.tableNames
  columns := database.columnsOf
  foreignKeys table := .ok (database.rowsAbout table (·.foreignKeyRows))
  indexes table := .ok (database.rowsAbout table database.indexRows)
  rowCount := database.countRows

end Database

end CatalogDdl
