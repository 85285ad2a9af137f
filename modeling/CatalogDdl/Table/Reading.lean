import CatalogDdl.Catalog.Source
import CatalogDdl.Ordering
import CatalogDdl.Table.Basic

/-! # Reading tables

From the rows of a catalogue to the description of a table.

* `Column.ofRows`: the columns in ordinal order; the ordinals have to be 0, 1, 2, and so on.
* `ForeignKey.ofRows`: one key for each id, in the order in which the ids first appear.
* `Index.ofRows`: the indexes over columns; an index over an expression is reported and left out.
* `Table.ofRows`: a table from all its rows, or what is inconsistent about them.
* `Source.readTable`: a table as a source describes it.
-/

namespace CatalogDdl
set_option autoImplicit false

/-! ## Columns -/

def ColumnRow.toColumn (row : ColumnRow) (ordinal : Nat) : Column where
  ordinal := ordinal
  name := row.name
  declared := .parse row.rawType
  notNull := row.notNull
  defaultText := row.defaultText
  isKeyMember := row.keyPosition > 0

namespace Column

/-- Columns from rows whose ordinals have to count on from `next`. -/
def ofSorted (next : Nat) : List ColumnRow → Except Inconsistency (List Column)
  | [] => .ok []
  | row :: rows =>
    if row.ordinal = next then (ofSorted (next + 1) rows).map (row.toColumn next :: ·)
    else .error (.ordinal row.name row.ordinal next)

/-- The columns of a table in ordinal order. -/
def ofRows (rows : List ColumnRow) : Except Inconsistency (List Column) :=
  if rows.isEmpty then .error .noColumns
  else ofSorted 0 (orderedBy (·.ordinal) rows)

end Column

/-! ## Foreign keys -/

namespace ForeignKey

/-- The rows of one foreign key, by `seq`. -/
def rowsOf (id : Int) (rows : List ForeignKeyRow) : List ForeignKeyRow :=
  orderedBy (·.seq) (rows.filter (·.id == id))

/-- The rows of every foreign key, in the order in which the ids first appear. -/
def groups (rows : List ForeignKeyRow) : List (List ForeignKeyRow) :=
  (rows.map (·.id)).eraseDups.map (rowsOf · rows)

/-- The referenced columns of a key. If any is missing there are none, and the key refers to the primary
key. -/
def referencedColumnsOf (rows : List ForeignKeyRow) : List String :=
  (rows.mapM ForeignKeyRow.referencedColumn).getD []

/-- The key of a group of rows. The first row says which table it refers to, and with what actions. -/
def ofGroup (first : ForeignKeyRow) (rest : List ForeignKeyRow) : Traced ForeignKey := do
  let onDelete ← Action.read first.onDelete
  let onUpdate ← Action.read first.onUpdate
  pure {
    localColumns := (first :: rest).map (·.localColumn)
    referencedTable := first.referencedTable
    referencedColumns := referencedColumnsOf (first :: rest)
    onDelete := onDelete
    onUpdate := onUpdate }

def ofRows (rows : List ForeignKeyRow) : Traced (List ForeignKey) :=
  go (groups rows)
where
  go : List (List ForeignKeyRow) → Traced (List ForeignKey)
    | [] => pure []
    | [] :: more => go more
    | (first :: rest) :: more => do
      let key ← ofGroup first rest
      let keys ← go more
      pure (key :: keys)

/-- The first local column of the keys that is no column of the table. -/
def unknownColumn? (columns : List Column) (keys : List ForeignKey) : Option String :=
  (keys.flatMap (·.localColumns)).find? fun name => !columns.any (·.name == name)

end ForeignKey

/-! ## Indexes -/

namespace Index

/-- The index of a row, unless one of its members is an expression. -/
def ofRow? (row : IndexRow) : Option Index :=
  (row.columns.mapM id).map fun columns =>
    { name := row.name, unique := row.unique, columns := columns, isImplicit := row.isImplicit }

/-- The indexes over columns. The others are reported. -/
def ofRows (table : String) : List IndexRow → Traced (List Index)
  | [] => pure []
  | row :: rows =>
    match ofRow? row with
    | some index => do
      let indexes ← ofRows table rows
      pure (index :: indexes)
    | none => do
      Traced.report (.expressionIndex table row.name)
      ofRows table rows

end Index

/-! ## Tables -/

/-- The table that rows describe. Actions are read before the local columns of the keys are checked. -/
def Table.ofRows (name : String) (columnRows : List ColumnRow) (keyRows : List ForeignKeyRow)
    (indexRows : List IndexRow) : Traced (Except Failure Table) :=
  match Column.ofRows columnRows with
  | .error cause => pure (.error (.inconsistentMetadata name cause))
  | .ok columns => do
    let keys ← ForeignKey.ofRows keyRows
    match ForeignKey.unknownColumn? columns keys with
    | some column => pure (.error (.inconsistentMetadata name (.unknownLocalColumn column)))
    | none => do
      let indexes ← Index.ofRows name indexRows
      pure (.ok { name := name, columns := columns, foreignKeys := keys, indexes := indexes })

namespace Source

/-- The rows that describe a table. The first question that fails decides. -/
def tableRows (source : Source) (table : String) :
    Except Failure (List ColumnRow × List ForeignKeyRow × List IndexRow) := do
  let columns ← source.columns table
  let keys ← source.foreignKeys table
  let indexes ← source.indexes table
  pure (columns, keys, indexes)

def readTable (source : Source) (table : String) : Traced (Except Failure Table) :=
  match source.tableRows table with
  | .error cause => pure (.error (.metadataUnavailable table cause))
  | .ok (columns, keys, indexes) => Table.ofRows table columns keys indexes

end Source

end CatalogDdl
