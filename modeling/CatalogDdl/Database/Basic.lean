import CatalogDdl.Database.Row

/-! # Databases

A `Database` holds the definitions that are in force, and the rows of each table.

* `Database.table?`, `Database.view?`: look-up by name.
* `Database.setRows`: a database with other rows in a table.
* `Database.lastCount?`, `Database.setCount`: the counters of tables whose rows are numbered for good.
-/

namespace CatalogDdl
set_option autoImplicit false

/-- The last number that was given to a row of a table. A counter may be for no table. -/
structure Counter where
  table : Option String
  last : Int
deriving DecidableEq, Repr

/-- Tables, indexes and views, each in the order in which they were created. From the first table with
numbered rows on the database keeps counters. -/
structure Database where
  tables : List StoredTable
  indexes : List IndexDefinition
  views : List ViewDefinition
  counters : Option (List Counter)

namespace Database

def empty : Database :=
  ⟨[], [], [], none⟩

def table? (database : Database) (name : String) : Option StoredTable :=
  database.tables.find? fun table => sameName table.name name

def view? (database : Database) (name : String) : Option ViewDefinition :=
  database.views.find? fun view => sameName view.name name

/-! ## Rows -/

def setRows (database : Database) (name : String) (rows : List StoredRow → List StoredRow) : Database :=
  { database with
    tables := database.tables.map fun table =>
      if sameName table.name name then { table with rows := rows table.rows } else table }

/-! ## Counters -/

def counterTable : String :=
  "sqlite_sequence"

/-- The last number of a table, if it has a counter. -/
def lastCount? (database : Database) (name : String) : Option Int :=
  ((database.counters.getD []).find? (·.table == some name)).map (·.last)

/-- Sets the last number of a table. -/
def setCount (database : Database) (name : String) (last : Int) : Database :=
  let set (counters : List Counter) : List Counter :=
    if counters.any (·.table == some name) then
      counters.map fun counter => if counter.table == some name then ⟨some name, last⟩ else counter
    else counters ++ [⟨some name, last⟩]
  { database with counters := database.counters.map set }

end Database

end CatalogDdl
