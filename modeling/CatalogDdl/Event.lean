import CatalogDdl.Failure

/-! # Events

What a run reports while it works.

* `Event`: the events, with what each is about.
* `Event.level`, `Event.message`, `Event.fields`: the three parts of an event's log line.
-/

namespace CatalogDdl
set_option autoImplicit false

inductive Event
  | unknownAction (text : String)
  | expressionIndex (table index : String)
  | tableSkipped (table : String) (cause : Failure)
  | countFailed (table : String) (cause : Failure)
  | tableConverted (table : String) (columns foreignKeys indexes : Nat) (rows : Option Nat)
  | applied (statements : Nat)
  | tablesMissing (skipped total : Nat)
  | analysed (database : String) (tables columns foreignKeys indexes : Nat)
  | reportWritten (path : String)
  | scriptWritten (path : String) (statements : Nat)
  | databaseOpened (database : String) (tables : Nat)
  | tableFound (table : String) (rows : Nat)
  | serverReached (host version : String)
deriving DecidableEq, Repr

inductive Event.Level
  | info | warning
deriving DecidableEq, Repr

/-- The value of one field of a log line. -/
inductive Event.Field
  | text (value : String)
  | number (value : Nat)
deriving DecidableEq, Repr

namespace Event

def level : Event → Level
  | unknownAction .. | expressionIndex .. | tableSkipped .. | countFailed .. | tablesMissing .. => .warning
  | _ => .info

def message : Event → String
  | unknownAction .. => "Unknown referential action, ignoring it"
  | expressionIndex .. => "Skipping index on expressions, only plain columns can be translated"
  | tableSkipped .. => "Skipping table"
  | countFailed .. => "Failed to count rows"
  | tableConverted .. => "Translated table"
  | applied .. => "Applied ddl to postgres"
  | tablesMissing .. => "Some tables could not be translated"
  | analysed .. => "Analysis complete"
  | reportWritten .. => "Wrote report"
  | scriptWritten .. => "Wrote ddl script"
  | databaseOpened .. => "Connected to SQLite"
  | tableFound .. => "Found table"
  | serverReached .. => "Connected to PostgreSQL"

def rowsText : Option Nat → String
  | none => "None"
  | some rows => s!"Some({rows})"

def fields : Event → List (String × Field)
  | unknownAction text => [("action", .text text)]
  | expressionIndex table index => [("table", .text table), ("index", .text index)]
  | tableSkipped table cause | countFailed table cause =>
    [("table", .text table), ("reason", .text cause.message)]
  | tableConverted table columns foreignKeys indexes rows =>
    [("table", .text table), ("columns", .number columns), ("foreign_keys", .number foreignKeys),
      ("indexes", .number indexes), ("rows", .text (rowsText rows))]
  | applied statements => [("statements", .number statements)]
  | tablesMissing skipped total => [("skipped", .number skipped), ("total", .number total)]
  | analysed database tables columns foreignKeys indexes =>
    [("database", .text database), ("tables", .number tables), ("columns", .number columns),
      ("foreign_keys", .number foreignKeys), ("indexes", .number indexes)]
  | reportWritten path => [("path", .text path)]
  | scriptWritten path statements => [("path", .text path), ("statements", .number statements)]
  | databaseOpened database tables => [("database", .text database), ("tables", .number tables)]
  | tableFound table rows => [("table", .text table), ("rows", .number rows)]
  | serverReached host version => [("host", .text host), ("version", .text version)]

end Event

end CatalogDdl
