import CatalogDdl.Sql.Statement
import CatalogDdl.Table.Action
import CatalogDdl.Types.Target

/-! # Tables

The description of a table that statements are written from.

* `Column`, with its type and the expression of its default value.
* `ForeignKey`: local columns, the referenced table and columns, and the two actions.
* `Index`, with the statement that creates it.
* `Table`, with its `PrimaryKey` and the indexes that need a statement of their own.
-/

namespace CatalogDdl
set_option autoImplicit false

/-! ## Columns -/

structure Column where
  ordinal : Nat
  name : String
  declared : DeclaredType
  notNull : Bool
  defaultText : Option String
  isKeyMember : Bool
deriving DecidableEq, Repr

namespace Column

def type (column : Column) : ColumnType :=
  column.declared.columnType

/-- Whether a default text stands as it is: it opens a string literal, or the type needs no literal. -/
def standsAsIs (column : Column) (text : String) : Bool :=
  text.toList.head? == some '\x27' || !column.type.target.isTextualOrTemporal

/-- The expression after `DEFAULT`: the default text, as a string literal where the type needs one. -/
def defaultExpression (column : Column) : Option String :=
  column.defaultText.map fun text => if column.standsAsIs text then text else Sql.literal text

end Column

/-! ## Foreign keys -/

/-- A foreign key. Without referenced columns it refers to the primary key of the referenced table. -/
structure ForeignKey where
  localColumns : List String
  referencedTable : String
  referencedColumns : List String
  onDelete : Option Action
  onUpdate : Option Action
deriving DecidableEq, Repr

/-! ## Indexes -/

/-- An index over columns. An implicit one exists for the primary key, which brings its own index. -/
structure Index where
  name : String
  unique : Bool
  columns : List String
  isImplicit : Bool
deriving DecidableEq, Repr

def Index.createStatement (index : Index) (table : String) : String :=
  Sql.createIndex index.name table index.columns index.unique

/-! ## Tables -/

/-- A table: columns in ordinal order, foreign keys and indexes in the order in which they were reported. -/
structure Table where
  name : String
  columns : List Column
  foreignKeys : List ForeignKey
  indexes : List Index
deriving DecidableEq, Repr

/-- How the primary key of a table is declared. -/
inductive PrimaryKey
  | none
  | simple (column : String)
  | composite (columns : List String)
deriving DecidableEq, Repr

namespace Table

/-- The names of the key columns, in ordinal order. -/
def keyColumns (table : Table) : List String :=
  (table.columns.filter (·.isKeyMember)).map (·.name)

def primaryKey (table : Table) : PrimaryKey :=
  match table.keyColumns with
  | [] => .none
  | [column] => .simple column
  | columns => .composite columns

/-- The indexes that need a statement of their own. -/
def ownIndexes (table : Table) : List Index :=
  table.indexes.filter (!·.isImplicit)

def indexStatements (table : Table) : List String :=
  table.ownIndexes.map (·.createStatement table.name)

end Table

end CatalogDdl
