import CatalogDdl.Sql.Quoting

/-! # Statements

The statements that create tables and indexes.

* `ColumnOption`, `KeyOption`: what follows a column or a foreign key.
* `Clause`: a column, the key of the table, or a foreign key, with its options in order. `Clause.head`: its text
  without the options; `Clause.sql`: the whole text.
* `CreateTable`: the text of a statement that is still being written. Clauses are added at its end, one by one, and
  `CreateTable.finish` closes it.
* `createTable`, `createIndex`: whole statements.
-/

namespace CatalogDdl.Sql
set_option autoImplicit false

/-! ## Clauses -/

inductive ColumnOption
  | primaryKey
  | notNull
  | defaultTo (expression : String)
deriving DecidableEq, Repr

def ColumnOption.sql : ColumnOption → String
  | primaryKey => " PRIMARY KEY"
  | notNull => " NOT NULL"
  | defaultTo expression => " DEFAULT " ++ expression

inductive KeyOption
  | onDelete (action : String)
  | onUpdate (action : String)
deriving DecidableEq, Repr

def KeyOption.sql : KeyOption → String
  | onDelete action => " ON DELETE " ++ action
  | onUpdate action => " ON UPDATE " ++ action

/-- A clause. A foreign key without referenced columns refers to the primary key of the other table. -/
inductive Clause
  | column (name type : String) (options : List ColumnOption)
  | primaryKey (columns : List String)
  | foreignKey (columns : List String) (table : String) (referenced : List String)
    (options : List KeyOption)
deriving DecidableEq, Repr

namespace Clause

/-- The list of referenced columns as it follows the referenced table. -/
def referencedList : List String → String
  | [] => ""
  | columns => s!"({identifiers columns})"

def head : Clause → String
  | column name type _ => s!"{identifier name} {type}"
  | primaryKey columns => s!"PRIMARY KEY ({identifiers columns})"
  | foreignKey columns table referenced _ =>
    s!"FOREIGN KEY ({identifiers columns}) REFERENCES {identifier table}{referencedList referenced}"

def optionTexts : Clause → List String
  | column _ _ options => options.map ColumnOption.sql
  | primaryKey _ => []
  | foreignKey _ _ _ options => options.map KeyOption.sql

def sql (clause : Clause) : String :=
  clause.head ++ String.join clause.optionTexts

end Clause

/-! ## Tables -/

/-- A statement under way: what is written so far, and whether a clause stands in it already. -/
structure CreateTable where
  text : String
  hasClause : Bool

namespace CreateTable

/-- The opening of the statement that creates the table `name`. -/
def start (name : String) : CreateTable :=
  ⟨s!"CREATE TABLE IF NOT EXISTS {plainIdentifier name} (", false⟩

def write (statement : CreateTable) (text : String) : CreateTable :=
  { statement with text := statement.text ++ text }

/-- Separates the next clause from the one before it, if there is one. -/
def openClause (statement : CreateTable) : CreateTable :=
  if statement.hasClause then statement.write ", " else { statement with hasClause := true }

/-- Adds a clause with its options. -/
def add (statement : CreateTable) (clause : Clause) : CreateTable :=
  clause.optionTexts.foldl write (statement.openClause.write clause.head)

def finish (statement : CreateTable) : String :=
  statement.text ++ ");"

end CreateTable

/-- The statement that creates a table with these clauses unless the table exists. -/
def createTable (name : String) (clauses : List Clause) : String :=
  (clauses.foldl CreateTable.add (.start name)).finish

/-! ## Indexes -/

/-- The statement that creates an index over columns of a table unless the index exists. -/
def createIndex (name table : String) (columns : List String) (unique : Bool) : String :=
  let kind := if unique then "UNIQUE INDEX" else "INDEX"
  s!"CREATE {kind} IF NOT EXISTS {identifier name} ON {identifier table} ({identifiers columns});"

end CatalogDdl.Sql
