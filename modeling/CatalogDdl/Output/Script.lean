import CatalogDdl.Run.Basic

/-! # Scripts

The text of a run as a file that a database client can execute: a header of comments, the tables, and the
indexes in groups by table. `Script.pieces` are the pieces in which it is written; `Script.text` is the whole.
-/

namespace CatalogDdl.Script
set_option autoImplicit false

def rule : String :=
  "-- ============================================================"

def banner (title : String) : List String :=
  ["\n", rule, s!"\n-- {title}\n", rule, "\n"]

def skippedNames (report : Report) : String :=
  ", ".intercalate (report.skipped.map (·.tableName))

/-- The names of the skipped tables, if there are any. -/
def skippedLine (report : Report) : List String :=
  if report.isPartial then [s!"-- Skipped Tables: {skippedNames report}\n"] else []

def header (report : Report) : List String :=
  ["-- PostgreSQL Schema\n", s!"-- Generated from SQLite database at {report.database}\n",
    s!"-- Total Tables: {report.totalTables}\n"] ++
  skippedLine report ++
  ["\n", "-- DROP SCHEMA public CASCADE;\n", "-- CREATE SCHEMA IF NOT EXISTS public;\n\n"]

def statement (block : Block) : List String :=
  [block.sql, "\n"]

def tableSection (document : Document) : List String :=
  document.tableBlocks.flatMap fun block => s!"-- Table: {block.table}\n" :: statement block

/-- The index blocks, grouped where neighbours are about the same table. -/
def indexGroups (document : Document) : List (List Block) :=
  document.indexBlocks.splitBy fun a b => a.table == b.table

def indexGroup : List Block → List String
  | [] => []
  | block :: blocks =>
    s!"-- Indexes for table: {block.table}\n" :: ((block :: blocks).flatMap statement ++ ["\n"])

def indexSection (document : Document) : List String :=
  (indexGroups document).flatMap indexGroup

/-- The pieces of a script, in the order in which they are written. -/
def pieces (run : Run) : List String :=
  header run.report ++ banner "TABLE DEFINITIONS" ++ tableSection run.document ++
    banner "INDEX DEFINITIONS" ++ indexSection run.document

def text (run : Run) : String :=
  String.join (pieces run)

end CatalogDdl.Script
