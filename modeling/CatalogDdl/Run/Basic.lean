import CatalogDdl.Ordering
import CatalogDdl.Run.Document
import CatalogDdl.Run.Report
import CatalogDdl.Table.Reading
import CatalogDdl.Table.Statement

/-! # Runs

A run reads every table of a source and writes the statements that create them.

* `Entry`: what became of one listed table.
* `Source.entry`, `Source.entries`: the entries of tables. A failure that concerns one table only is an entry
  too.
* `Run`: the document and the report of a list of entries; tables come before indexes in the document.
* `Source.run`: the run over all tables of a source, in the order of their names.
-/

namespace CatalogDdl
set_option autoImplicit false

/-! ## Entries -/

/-- What became of a table: it was read, with its number of rows if that is known, or it was skipped. -/
inductive Entry
  | read (table : Table) (rows : Option Nat)
  | skipped (name : String) (cause : Failure)
deriving DecidableEq, Repr

namespace Entry

def tableBlocks : Entry → List Block
  | read table _ => [.createTable table.name table.createStatement]
  | skipped .. => []

def indexBlocks : Entry → List Block
  | read table _ =>
    table.ownIndexes.map fun index => .createIndex table.name index.name (index.createStatement table.name)
  | skipped .. => []

def summary? : Entry → Option Summary
  | read table rows => some (table.summary rows)
  | skipped .. => none

def skipped? : Entry → Option Skipped
  | read .. => none
  | skipped name cause => some ⟨name, cause⟩

end Entry

/-! ## Reading -/

namespace Source

/-- The number of rows of a table, if it is asked for. A count that fails is reported and left out. -/
def rowsOf (source : Source) (countRows : Bool) (table : String) : Traced (Option Nat) :=
  if countRows then
    match source.rowCount table with
    | .ok rows => pure (some rows)
    | .error cause => do
      Traced.report (.countFailed table cause)
      pure none
  else pure none

/-- Reads one table. A failure that concerns other tables too is passed on. -/
def entry (source : Source) (countRows : Bool) (name : String) : Traced (Except Failure Entry) := do
  match ← source.readTable name with
  | .ok table => do
    let rows ← source.rowsOf countRows name
    Traced.report (.tableConverted table.name table.columns.length table.foreignKeys.length
      table.indexes.length rows)
    pure (.ok (.read table rows))
  | .error cause =>
    if cause.isTableLocal then do
      Traced.report (.tableSkipped name cause)
      pure (.ok (.skipped name cause))
    else pure (.error cause)

/-- Reads tables one after the other, up to a failure that concerns them all. -/
def entries (source : Source) (countRows : Bool) : List String → Traced (Except Failure (List Entry))
  | [] => pure (.ok [])
  | name :: names => do
    match ← source.entry countRows name with
    | .error cause => pure (.error cause)
    | .ok entry => do
      let rest ← source.entries countRows names
      pure (rest.map (entry :: ·))

end Source

/-! ## Runs -/

/-- The outcome of a run. -/
structure Run where
  document : Document
  report : Report
deriving DecidableEq, Repr

namespace Run

/-- The outcome of the entries of all listed tables: first the statements of the tables, then those of the
indexes. -/
def ofEntries (database : String) (listed : Nat) (entries : List Entry) : Run where
  document := ⟨entries.flatMap Entry.tableBlocks ++ entries.flatMap Entry.indexBlocks⟩
  report := {
    database := database
    totalTables := listed
    tables := entries.filterMap Entry.summary?
    skipped := entries.filterMap Entry.skipped? }

def isPartial (run : Run) : Bool :=
  run.report.isPartial

end Run

/-- Reads all tables of a source in the order of their names. Only a failure to list them ends the run. -/
def Source.run (source : Source) (countRows : Bool) : Traced (Except Failure Run) :=
  match source.tableNames with
  | .error cause => pure (.error cause)
  | .ok names => do
    let entries ← source.entries countRows (orderedBy id names)
    pure (entries.map (Run.ofEntries source.databaseName names.length))

end CatalogDdl
