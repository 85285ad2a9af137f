import CatalogDdl.Sql.Statement
import CatalogDdl.Table.Basic

/-! # The statement of a table

`Table.clauses` are the clauses of a table's `CREATE TABLE` statement: the columns, the primary key where it
has several columns, and the foreign keys. A primary key of one column is declared at the column that bears
its name.
-/

namespace CatalogDdl
set_option autoImplicit false
open Sql

/-- The options of a column. A column that is the whole primary key is never null, which needs no saying. -/
def Column.options (column : Column) (key : PrimaryKey) : List ColumnOption :=
  let isKey := key == .simple column.name
  (if isKey then [.primaryKey] else []) ++ (if column.notNull && !isKey then [.notNull] else []) ++
    (column.defaultExpression.map ColumnOption.defaultTo).toList

def Column.clause (column : Column) (key : PrimaryKey) : Clause :=
  .column column.name column.type.sql (column.options key)

def PrimaryKey.clauses : PrimaryKey → List Clause
  | composite columns => [.primaryKey columns]
  | _ => []

namespace ForeignKey

/-- The text of an action that has to be written down. -/
def actionText (action : Option Action) : Option String :=
  (action.filter (!·.isNoOp)).map Action.sql

def clause (key : ForeignKey) : Clause :=
  .foreignKey key.localColumns key.referencedTable key.referencedColumns <|
    ((actionText key.onDelete).map KeyOption.onDelete).toList ++
      ((actionText key.onUpdate).map KeyOption.onUpdate).toList

end ForeignKey

namespace Table

def clauses (table : Table) : List Clause :=
  table.columns.map (·.clause table.primaryKey) ++ table.primaryKey.clauses ++
    table.foreignKeys.map ForeignKey.clause

def createStatement (table : Table) : String :=
  createTable table.name table.clauses

end Table

end CatalogDdl
