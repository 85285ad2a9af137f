import CatalogDdl.Failure
import CatalogDdl.Table.Basic
import CatalogDdl.Text.Json

/-! # Reports

* `Summary`: the size of a table. `Skipped`: a table that could not be read, with the reason.
* `Report`: what a run found, table by table; `Report.json` is its text.
-/

namespace CatalogDdl
set_option autoImplicit false

/-- The size of a table. The rows are counted only on demand, and missing where counting failed. -/
structure Summary where
  tableName : String
  columnCount : Nat
  foreignKeyCount : Nat
  indexCount : Nat
  rowCount : Option Nat
deriving DecidableEq, Repr

def Table.summary (table : Table) (rows : Option Nat) : Summary where
  tableName := table.name
  columnCount := table.columns.length
  foreignKeyCount := table.foreignKeys.length
  indexCount := table.indexes.length
  rowCount := rows

/-- A table that is missing from the document. -/
structure Skipped where
  tableName : String
  cause : Failure
deriving DecidableEq, Repr

def Skipped.reason (skipped : Skipped) : String :=
  skipped.cause.message

/-- What a run found in a database. -/
structure Report where
  database : String
  totalTables : Nat
  tables : List Summary
  skipped : List Skipped
deriving DecidableEq, Repr

namespace Report

/-- Whether at least one table is missing from the document. -/
def isPartial (report : Report) : Bool :=
  !report.skipped.isEmpty

/-- The sum of a count over the tables that could be read. -/
def total (report : Report) (count : Summary → Nat) : Nat :=
  report.tables.foldr (fun summary sum => count summary + sum) 0

/-! ## Text -/

def summaryJson (level : Nat) (summary : Summary) : String :=
  Json.object level [
    ("table_name", Json.text summary.tableName),
    ("column_count", Json.number summary.columnCount),
    ("foreign_key_count", Json.number summary.foreignKeyCount),
    ("index_count", Json.number summary.indexCount),
    ("row_count", Json.numberOrNull summary.rowCount)]

def skippedJson (level : Nat) (skipped : Skipped) : String :=
  Json.object level [("table_name", Json.text skipped.tableName), ("reason", Json.text skipped.reason)]

/-- A report as JSON, with the time at which it was made. -/
def json (report : Report) (generatedAt : String) : String :=
  Json.object 0 [
    ("database", Json.text report.database),
    ("generated_at", Json.text generatedAt),
    ("total_tables", Json.number report.totalTables),
    ("tables", Json.list 1 (report.tables.map (summaryJson 2))),
    ("failures", Json.list 1 (report.skipped.map (skippedJson 2)))]

end Report

end CatalogDdl
