/-! # Database definitions

The statements that shape an SQLite database, with the texts that they were written with.

* `ColumnDefinition`, `TableDefinition`: a table with its constraints.
* `IndexDefinition`, `ViewDefinition`: an index and a view.
* `Change`: what can be done to a database.
-/

namespace CatalogDdl
set_option autoImplicit false

/-- What a foreign key refers to. Without columns it is the primary key of the table. -/
structure Reference where
  table : String
  columns : Option (List String)
  onDelete : Option String
  onUpdate : Option String
deriving DecidableEq, Repr

/-- A column with its own constraints. The type, the default and what the column is generated from are texts; no
type is the empty text. A key column may be numbered, so that no number is ever used again. -/
structure ColumnDefinition where
  name : String
  type : String
  isKey : Bool
  isNumbered : Bool
  isUnique : Bool
  notNull : Bool
  defaultText : Option String
  generated : Option String
  reference : Option Reference
deriving DecidableEq, Repr

/-- A foreign key that is declared for the table. -/
structure KeyDefinition where
  columns : List String
  reference : Reference
deriving DecidableEq, Repr

/-- A table. Its own constraints follow those of the columns. -/
structure TableDefinition where
  name : String
  columns : List ColumnDefinition
  primaryKey : Option (List String)
  uniqueKeys : List (List String)
  foreignKeys : List KeyDefinition
  withoutRowid : Bool
deriving DecidableEq, Repr

/-- What an index orders the rows by: a column, or expressions with commas between them. -/
inductive IndexMember
  | column (name : String)
  | expression (text : String)
deriving DecidableEq, Repr

/-- An index. With a filter it covers only some of the rows. -/
structure IndexDefinition where
  name : String
  table : String
  unique : Bool
  members : List IndexMember
  filter : Option String
deriving DecidableEq, Repr

/-- A view of all columns and rows of a table or of another view. -/
structure ViewDefinition where
  name : String
  table : String
deriving DecidableEq, Repr

/-- A change to a database. -/
inductive Change
  | createTable (definition : TableDefinition)
  | createIndex (definition : IndexDefinition)
  | createView (definition : ViewDefinition)
  | dropTable (name : String)
  | dropIndex (name : String)
  | insertRows (table : String) (count : Nat)
  | deleteRows (table : String)
deriving DecidableEq, Repr

end CatalogDdl
