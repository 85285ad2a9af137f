import CatalogDdl.Catalog.Source

/-! # Scripted sources

A `ScriptedTable` lists the answers of a source about one table, and which of the questions fail. A
`Scripted` source is a list of them; where a name is listed again, the later answers hold for both.
-/

namespace CatalogDdl
set_option autoImplicit false

/-- The questions that a source answers about a table. -/
inductive Question
  | columns | foreignKeys | indexes | rowCount
deriving DecidableEq, Repr

/-- The answers about one table. Where `denied` is set, every question without a failure of its own is
refused. -/
structure ScriptedTable where
  name : String
  columns : List ColumnRow
  foreignKeys : List ForeignKeyRow
  indexes : List IndexRow
  rows : Nat
  denied : Bool
  failures : List (Question × Failure)

/-- The answers of a source, table by table. -/
structure Scripted where
  databaseName : String
  listFailure : Option Failure
  tables : List ScriptedTable

namespace Scripted

def entries (script : Scripted) (table : String) : List ScriptedTable :=
  script.tables.filter (·.name == table)

/-- The failure of a question about a table: the last one listed for it, else the refusal of a denied
table. -/
def failure? (script : Scripted) (question : Question) (table : String) : Option Failure :=
  let entries := script.entries table
  match entries.reverse.findSome? (·.failures.lookup question) with
  | some failure => some failure
  | none => if entries.any (·.denied) then some (.io s!"access to {table} denied") else none

/-- Answers a question from the last entry for a table, or with `unknown` where there is none. -/
def answer {α : Type} (script : Scripted) (question : Question) (read : ScriptedTable → α)
    (unknown : α) (table : String) : Except Failure α :=
  match script.failure? question table with
  | some failure => .error failure
  | none => .ok (((script.entries table).getLast?.map read).getD unknown)

def source (script : Scripted) : Source where
  databaseName := script.databaseName
  tableNames :=
    match script.listFailure with
    | some failure => .error failure
    | none => .ok (script.tables.map (·.name))
  columns := script.answer .columns (·.columns) []
  foreignKeys := script.answer .foreignKeys (·.foreignKeys) []
  indexes := script.answer .indexes (·.indexes) []
  rowCount := script.answer .rowCount (·.rows) 0

end Scripted

end CatalogDdl
