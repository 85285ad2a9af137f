import CatalogDdl.Catalog.Source
import CatalogDdl.Database.Clause
import CatalogDdl.Database.Definition

/-! # Schemas

What a table definition says once its texts have been read.

* `SchemaColumn`, `KeyConstraint`, `SchemaKey`: columns, keys and foreign keys.
* `TableSchema`: a table; `TableDefinition.schema` reads it.
* `IndexColumn`: what an index orders the rows by; `IndexDefinition.columns` reads it.
-/

namespace CatalogDdl
set_option autoImplicit false

/-! ## Columns -/

/-- A column. A default has a text and a value. -/
structure SchemaColumn where
  name : String
  type : TypeName
  notNull : Bool
  default : Option (String × Expression)
  generated : Option Expression
  collation : Collation

/-- A column of which no more is known than its type. -/
def SchemaColumn.plain (name : String) (type : TypeName) : SchemaColumn :=
  ⟨name, type, false, none, none, .binary⟩

/-- A column after one more clause. The last clause of a kind counts. -/
def SchemaColumn.with (column : SchemaColumn) : ColumnClause → SchemaColumn
  | .notNull => { column with notNull := true }
  | .default text value => { column with default := some (text, value) }
  | .generated value => { column with generated := some value }
  | .collation collation => { column with collation := collation }
  | _ => column

/-! ## Keys -/

/-- A constraint by which rows differ in some columns. -/
structure KeyConstraint where
  origin : IndexOrigin
  columns : List String
  isDescending : Bool
deriving DecidableEq

/-- A foreign key. Without referenced columns it refers to the primary key of the table. -/
structure SchemaKey where
  columns : List String
  table : String
  referenced : Option (List String)
  onDelete : Action
  onUpdate : Action
deriving DecidableEq

def ColumnClause.constraint? (column : String) : ColumnClause → Option KeyConstraint
  | key isDescending _ => some ⟨.primaryKey, [column], isDescending⟩
  | unique => some ⟨.uniqueConstraint, [column], false⟩
  | _ => none

def ColumnClause.isNumbered : ColumnClause → Bool
  | key _ isNumbered => isNumbered
  | _ => false

/-- The foreign keys of some columns after one more clause. An action belongs to the last key before it. -/
def SchemaKey.added (columns : List String) (keys : List SchemaKey) : ColumnClause → List SchemaKey
  | .reference table referenced => keys ++ [⟨columns, table, referenced, .noAction, .noAction⟩]
  | .onDelete action => keys.dropLast ++ keys.getLast?.toList.map ({ · with onDelete := action })
  | .onUpdate action => keys.dropLast ++ keys.getLast?.toList.map ({ · with onUpdate := action })
  | _ => keys

def SchemaKey.ofClauses (columns : List String) (clauses : List ColumnClause) : List SchemaKey :=
  clauses.foldl (added columns) []

/-! ## Tables -/

/-- A table. The key constraints and the foreign keys stand in the order in which they are written. -/
structure TableSchema where
  name : String
  columns : List SchemaColumn
  constraints : List KeyConstraint
  foreignKeys : List SchemaKey
  isNumbered : Bool
  withoutRowid : Bool

namespace TableSchema

def column? (table : TableSchema) (name : String) : Option SchemaColumn :=
  table.columns.find? (sameName ·.name name)

/-- The name of a column as it was declared, if it is a column. -/
def columnName? (table : TableSchema) (name : String) : Option String :=
  (table.column? name).map (·.name)

end TableSchema

/-! ## Reading definitions -/

/-- The clauses by which a definition refers to another table. -/
def Reference.clauses (reference : Reference) : List ColumnClause :=
  .reference reference.table reference.columns :: ColumnClause.ofActions reference.onDelete reference.onUpdate

namespace ColumnDefinition

/-- The tokens of the type of a column, and of what its text says besides. -/
def typed (column : ColumnDefinition) : List Token × List Token :=
  let generated := (column.generated.map fun text => s!" GENERATED ALWAYS AS ({text})").getD ""
  typeTokens (tokens (column.type ++ generated))

def clauses (column : ColumnDefinition) : List ColumnClause :=
  ColumnClause.read column.typed.2 ++
    (if column.isKey then [.key false column.isNumbered] else []) ++
    (if column.notNull then [.notNull] else []) ++
    (if column.isUnique then [.unique] else []) ++
    ((column.defaultText.map fun text => ColumnClause.read (tokens s!"DEFAULT {text}")).getD []) ++
    ((column.reference.map (·.clauses)).getD [])

def column (column : ColumnDefinition) : SchemaColumn :=
  column.clauses.foldl .with (.plain column.name (.ofTokens column.typed.1))

end ColumnDefinition

namespace TableDefinition

def declaredName (table : TableDefinition) (name : String) : String :=
  ((table.columns.find? (sameName ·.name name)).map (·.name)).getD name

/-- What a table definition says. The constraints of the table follow those of its columns. -/
def schema (table : TableDefinition) : TableSchema :=
  let declared (names : List String) : List String := names.map table.declaredName
  { name := table.name
    columns := table.columns.map (·.column)
    constraints :=
      (table.columns.flatMap fun column => column.clauses.filterMap (·.constraint? column.name)) ++
        (table.primaryKey.toList.map fun key => ⟨.primaryKey, declared key, false⟩) ++
        (table.uniqueKeys.map fun key => ⟨.uniqueConstraint, declared key, false⟩)
    foreignKeys :=
      (table.columns.flatMap fun column => SchemaKey.ofClauses [column.name] column.clauses) ++
        (table.foreignKeys.flatMap fun key => SchemaKey.ofClauses (declared key.columns) key.reference.clauses)
    isNumbered := table.columns.any fun column => column.clauses.any (·.isNumbered)
    withoutRowid := table.withoutRowid }

end TableDefinition

/-! ## Indexes -/

/-- What an index orders the rows by: a column, or an expression that is none. A collation may be asked for. -/
structure IndexColumn where
  name : Option String
  collation : Option Collation
deriving DecidableEq

/-- Splits tokens at the commas outside of parentheses. -/
def splitAtCommas (depth : Nat) : List Token → List (List Token)
  | [] => [[]]
  | token :: rest =>
    let next := if token.key == "(" then depth + 1 else if token.key == ")" then depth - 1 else depth
    match splitAtCommas next rest with
    | [] => [[token]]
    | first :: more => if token.key == "," && depth == 0 then [] :: first :: more else (token :: first) :: more

def withoutDirection (ts : List Token) : List Token :=
  if ts.length ≠ 1 && ts.getLast?.any (["ASC", "DESC"].contains ·.key) then ts.dropLast else ts

def IndexColumn.ofTokens (table : TableSchema) (ts : List Token) : IndexColumn :=
  let expression := Expression.ofTokens (withoutDirection ts)
  { name := expression.columnName?.bind table.columnName?
    collation := match expression with
      | .collated _ collation => some collation
      | _ => none }

/-- The columns of an index. A name of no column is an expression. -/
def IndexDefinition.columns (index : IndexDefinition) (table : TableSchema) : List IndexColumn :=
  index.members.flatMap fun
    | .column name => [⟨table.columnName? name, none⟩]
    | .expression text => (splitAtCommas 0 (tokens text)).map (.ofTokens table)

end CatalogDdl
