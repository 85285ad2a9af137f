import CatalogDdl.Types.Declared

/-! # Column types

The types that columns get in PostgreSQL.

* `TargetType`: the types, and `TargetType.known`, the names of declared types that stand for them.
* `ColumnType`: a type with the size that it keeps, and its SQL text.
* `DeclaredType.columnType`: the column type of a declared type. Every declared type has one.
-/

namespace CatalogDdl
set_option autoImplicit false
open Text

inductive TargetType
  | smallInt | integer | bigInt | text | varchar | real | doublePrecision | numeric | decimal | boolean
  | date | timestamp | bytea
deriving DecidableEq, Repr, Inhabited

namespace TargetType

def sql : TargetType → String
  | smallInt => "SMALLINT"
  | integer => "INTEGER"
  | bigInt => "BIGINT"
  | text => "TEXT"
  | varchar => "VARCHAR"
  | real => "REAL"
  | doublePrecision => "DOUBLE PRECISION"
  | numeric => "NUMERIC"
  | decimal => "DECIMAL"
  | boolean => "BOOLEAN"
  | date => "DATE"
  | timestamp => "TIMESTAMP"
  | bytea => "BYTEA"

def keepsSize (t : TargetType) : Bool :=
  t == varchar

/-- The types whose default values have to be string literals. -/
def isTextualOrTemporal : TargetType → Bool
  | text | varchar | date | timestamp => true
  | _ => false

/-- The names of declared types, in upper case, with the types they stand for. -/
def known : List (String × TargetType) := [
  ("INTEGER", integer), ("INT", integer), ("MEDIUMINT", integer),
  ("TINYINT", smallInt), ("SMALLINT", smallInt), ("INT2", smallInt),
  ("BIGINT", bigInt), ("UNSIGNED BIG INT", bigInt), ("INT8", bigInt),
  ("TEXT", text), ("CLOB", text),
  ("CHARACTER", varchar), ("VARCHAR", varchar), ("VARYING CHARACTER", varchar), ("NCHAR", varchar),
  ("NATIVE CHARACTER", varchar), ("NVARCHAR", varchar),
  ("REAL", doublePrecision), ("DOUBLE", doublePrecision), ("DOUBLE PRECISION", doublePrecision),
  ("FLOAT", real), ("NUMERIC", numeric), ("DECIMAL", decimal), ("BOOLEAN", boolean), ("DATE", date),
  ("DATETIME", timestamp), ("TIMESTAMP", timestamp), ("BLOB", bytea)]

def ofName? (name : String) : Option TargetType :=
  known.lookup name

end TargetType

/-- The type of a column in PostgreSQL, with the size that stands after it. -/
structure ColumnType where
  target : TargetType
  size : Option Nat
deriving DecidableEq, Repr, Inhabited

def ColumnType.sql (t : ColumnType) : String :=
  match t.size with
  | none => t.target.sql
  | some size => s!"{t.target.sql}({size})"

namespace DeclaredType

/-- The text before the first space. -/
def firstWord (name : String) : String :=
  String.ofList (name.toList.takeWhile (· != ' '))

/-- The type that a name in upper case stands for: as a whole, else by its first word, else `TEXT`. -/
def targetOf (name : String) : TargetType :=
  ((TargetType.ofName? name).or (TargetType.ofName? (firstWord name))).getD .text

def columnType (t : DeclaredType) : ColumnType :=
  let target := targetOf (upper t.baseName)
  ⟨target, if target.keepsSize then t.size else none⟩

end DeclaredType

end CatalogDdl
