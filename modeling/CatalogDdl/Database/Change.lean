import CatalogDdl.Database.Dependence

/-! # Changes

`Database.change`: the database after a change. `Database.ofChanges` starts from the empty database.
-/

namespace CatalogDdl
set_option autoImplicit false

namespace Database

/-! ## Rows -/

def insert (database : Database) (name : String) (count : Nat) : Database :=
  if sameName name counterTable then
    { database with counters := database.counters.map (· ++ List.replicate count ⟨none, 0⟩) }
  else
    match database.table? name with
    | none => database
    | some table =>
      let last := max table.lastNumber ((database.lastCount? table.name).getD table.lastNumber)
      let filled := database.setRows name (· ++ table.schema.defaultRows last count)
      if table.schema.isNumbered && count != 0 then filled.setCount table.name (last + count) else filled

def clear (database : Database) (name : String) : Database :=
  if sameName name counterTable then { database with counters := database.counters.map fun _ => [] }
  else (database.table? name).elim database database.removeRows

/-! ## Tables -/

/-- Adds a table. The first table with numbered rows brings the counters. -/
def addTable (database : Database) (definition : TableDefinition) : Database :=
  let schema := definition.schema
  { database with
    tables := database.tables ++ [⟨schema, []⟩]
    counters := if schema.isNumbered then some (database.counters.getD []) else database.counters }

/-- Removes a table with its rows, its indexes and its counter. -/
def dropTable (database : Database) (name : String) : Database :=
  let cleared := database.clear name
  { cleared with
    tables := cleared.tables.filter fun table => !sameName table.name name
    indexes := cleared.indexes.filter fun index => !sameName index.table name
    counters := cleared.counters.map fun counters =>
      counters.filter fun counter => !(database.table? name).any (some ·.name == counter.table) }

/-! ## Changes -/

def change (database : Database) : Change → Database
  | .createTable definition => database.addTable definition
  | .createIndex definition => { database with indexes := database.indexes ++ [definition] }
  | .createView definition => { database with views := database.views ++ [definition] }
  | .dropTable name => database.dropTable name
  | .dropIndex name =>
    { database with indexes := database.indexes.filter fun index => !sameName index.name name }
  | .insertRows table count => database.insert table count
  | .deleteRows table => database.clear table

def ofChanges (changes : List Change) : Database :=
  changes.foldl change empty

end Database

end CatalogDdl
