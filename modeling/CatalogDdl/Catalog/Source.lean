import CatalogDdl.Failure

/-! # Sources

What a database answers about its tables, before any of it is checked.

* `ColumnRow`: a column. `ForeignKeyRow`: one pair of columns of a foreign key.
* `IndexRow`: an index with its `IndexOrigin`.
* `Source`: everything that a run asks a database: the names of its tables, and for each name the rows of the
  catalogue and the number of rows in the table. Every question may fail on its own.
-/

namespace CatalogDdl
set_option autoImplicit false

/-! ## Rows of the catalogue -/

/-- A column. A positive `keyPosition` is its place in the primary key. -/
structure ColumnRow where
  ordinal : Int
  name : String
  rawType : String
  notNull : Bool
  defaultText : Option String
  keyPosition : Int
deriving DecidableEq, Repr

/-- One pair of columns of the foreign key `id`. Without a referenced column the key refers to the primary
key of the other table. -/
structure ForeignKeyRow where
  id : Int
  seq : Int
  referencedTable : String
  localColumn : String
  referencedColumn : Option String
  onUpdate : Option String
  onDelete : Option String
deriving DecidableEq, Repr

/-- What made an index. -/
inductive IndexOrigin
  | createIndex
  | uniqueConstraint
  | primaryKey
deriving DecidableEq, Repr

/-- Reads the mark by which a database reports the origin of an index. -/
def IndexOrigin.ofMark? : String → Option IndexOrigin
  | "c" => some createIndex
  | "u" => some uniqueConstraint
  | "pk" => some primaryKey
  | _ => none

/-- An index. A member without a column name is an expression. -/
structure IndexRow where
  name : String
  unique : Bool
  origin : Option IndexOrigin
  columns : List (Option String)
deriving DecidableEq, Repr

/-- The beginning of the names that a database gives to indexes by itself. -/
def automaticStem : String :=
  "sqlite_autoindex_"

/-- Whether an index was made for a primary key: the database named it, and no unique constraint accounts
for it. -/
def IndexRow.isImplicit (row : IndexRow) : Bool :=
  automaticStem.toList.isPrefixOf row.name.toList && row.origin != some .uniqueConstraint

/-! ## Answers -/

/-- The answers of a database. -/
structure Source where
  databaseName : String
  tableNames : Except Failure (List String)
  columns : String → Except Failure (List ColumnRow)
  foreignKeys : String → Except Failure (List ForeignKeyRow)
  indexes : String → Except Failure (List IndexRow)
  rowCount : String → Except Failure Nat

end CatalogDdl
