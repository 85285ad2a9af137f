import CatalogDdl.Database.Inspection
import CatalogDdl.Proofs.Run.Declarations
import CatalogDdl.Proofs.Run.Statements

/-! # Columns of indexes

The statements that create indexes are read back, and their columns looked up in the tables of the document.

* `IndexDeclaration.read`: the reader of a `CREATE INDEX` statement.
* `Index.read_statement`: the statement of an index is read back.
* `Source.IndexesReported`: whether indexes that get a statement are over columns that the source reports.
* `Source.indexColumns_iff`: exactly then the indexes of a document are over columns that it declares.
-/

namespace CatalogDdl
set_option autoImplicit false
open Sql

/-! ## Statements -/

namespace Sql

structure IndexDeclaration where
  unique : Bool
  name : String
  table : String
  columns : List String
deriving DecidableEq, Repr

def IndexDeclaration.read (text : String) : Option IndexDeclaration := do
  let cs ← after? "CREATE" text.toList
  let (unique, cs) := readMark " UNIQUE" cs
  let cs ← after? " INDEX IF NOT EXISTS " cs
  let (name, cs) ← readIdentifier cs
  let cs ← after? " ON " cs
  let (table, cs) ← readIdentifier cs
  let cs ← after? " (" cs
  let (columns, cs) := readIdentifiers cs
  if cs = [')', ';'] then some ⟨unique, name, table, columns⟩ else none

end Sql

namespace Index
variable (index : Index) (table : String)

def declaration : IndexDeclaration :=
  ⟨index.unique, index.name, table, index.columns⟩

theorem toList_kind :
    "REATE ".toList ++ index.kind.toList =
      "REATE".toList ++ ((if index.unique then " UNIQUE".toList else []) ++ " INDEX".toList) := by
  rw [kind]
  cases index.unique <;> rfl

theorem read_statement :
    IndexDeclaration.read (index.createStatement table) = some (index.declaration table) := by
  have hm (rest : List Char) : readMark " UNIQUE"
      ((if index.unique then " UNIQUE".toList else []) ++ (" INDEX IF NOT EXISTS ".toList ++ rest)) =
        (index.unique, " INDEX IF NOT EXISTS ".toList ++ rest) :=
    readMark_if (after?_eq_none (by decide) (by decide) rest) index.unique
  have he : (index.createStatement table).toList =
      "CREATE".toList ++ ((if index.unique then " UNIQUE".toList else []) ++ (" INDEX IF NOT EXISTS ".toList ++
        ((identifier index.name).toList ++ (" ON ".toList ++ ((identifier table).toList ++ (" (".toList ++
          ((identifiers index.columns).toList ++ ')' :: [';']))))))) := by
    have hk := index.toList_kind
    have hc : 'C' :: "REATE".toList = "CREATE".toList := rfl
    have hi : " INDEX".toList ++ " IF NOT EXISTS ".toList = " INDEX IF NOT EXISTS ".toList := rfl
    have ho : " ".toList ++ ['('] = " (".toList := rfl
    rw [toList_createStatement, ← List.append_assoc "REATE ".toList, hk, ← hc, ← hi, ← ho]
    simp only [List.append_assoc, List.cons_append, List.nil_append]
  have hn (rest : List Char) : (" ON ".toList ++ rest).head? ≠ some '"' := by simp
  have ht (rest : List Char) : (" (".toList ++ rest).head? ≠ some '"' := by simp
  rw [IndexDeclaration.read, he]
  simp only [Option.bind_eq_bind, Option.bind_some, after?_append, hm, readIdentifier_identifier _ (hn _),
    readIdentifier_identifier _ (ht _), readIdentifiers_parenthesis, if_true]
  rfl

end Index

/-- Whether the statements that create the indexes of a run declare these, one by one. -/
def Run.DeclaresIndexes (run : Run) (indexes : List IndexDeclaration) : Prop :=
  List.Forall₂ (fun block index => block.table = index.table ∧ IndexDeclaration.read block.sql = some index)
    run.document.indexBlocks indexes

/-! ## Columns -/

namespace Table
variable {name : String} {columns : List ColumnRow} {keys : List ForeignKeyRow} {indexes : List IndexRow}

theorem mem_ownIndexes {index : Index} :
    index ∈ (described name columns keys indexes).ownIndexes ↔
      ∃ row ∈ indexes, row.isImplicit = false ∧ row.columns = index.columns.map some ∧
        index = ⟨row.name, row.unique, index.columns, row.isImplicit⟩ := by
  have hm : index ∈ (described name columns keys indexes).ownIndexes ↔
      index ∈ (Index.ofRows name indexes).value ∧ (!index.isImplicit) = true := List.mem_filter
  rw [hm, Index.value_ofRows, List.mem_filterMap]
  simp only [Index.ofRow?_eq_some_iff, Bool.not_eq_true']
  constructor
  · rintro ⟨⟨row, hr, hc, hi⟩, hn⟩
    rw [hi] at hn
    exact ⟨row, hr, hn, hc, hi⟩
  · rintro ⟨row, hr, hn, hc, hi⟩
    refine ⟨⟨row, hr, hc, hi⟩, ?_⟩
    rw [hi]
    exact hn

theorem forall_ownIndexes {p : String → Prop} :
    (∀ index ∈ (described name columns keys indexes).ownIndexes, ∀ column ∈ index.columns, p column) ↔
      ∀ row ∈ indexes, row.isImplicit = false → none ∉ row.columns →
        ∀ column, some column ∈ row.columns → p column := by
  constructor
  · intro h row hr hi hn column hc
    obtain ⟨names, e⟩ := exists_map_some hn
    have hm : column ∈ names := by
      rw [e] at hc
      simpa using hc
    exact h ⟨row.name, row.unique, names, row.isImplicit⟩ (mem_ownIndexes.2 ⟨row, hr, hi, e, rfl⟩) column hm
  · intro h index hi column hc
    obtain ⟨row, hr, hn, e, -⟩ := mem_ownIndexes.1 hi
    refine h row hr hn ?_ column ?_
    · rw [e]
      simp
    · rw [e]
      exact List.mem_map_of_mem hc

end Table

namespace Source

/-- Whether the indexes of readable tables are over reported columns only. Indexes over expressions get no statement,
and neither do those that a primary key brings with it. -/
def IndexesReported (source : Source) (names : List String) : Prop :=
  ∀ name ∈ names, ∀ columns keys indexes, source.columns name = .ok columns → source.foreignKeys name = .ok keys →
    source.indexes name = .ok indexes → IsConsistent columns keys →
      ∀ row ∈ indexes, row.isImplicit = false → none ∉ row.columns →
        ∀ column, some column ∈ row.columns → column ∈ columns.map (·.name)

variable {source : Source} {countRows : Bool} {run : Run} {names : List String}

/-- The indexes of readable tables, as their statements declare them. -/
def indexesOf (source : Source) (names : List String) : List IndexDeclaration :=
  (source.tablesOf names).flatMap fun table => table.ownIndexes.map (·.declaration table.name)

theorem declaresIndexes_of_run (h : (source.run countRows).value = .ok run) (hn : source.tableNames = .ok names) :
    run.DeclaresIndexes (source.indexesOf (orderedBy id names)) := by
  rw [Run.DeclaresIndexes, (blocks_of_run h hn).2, indexesOf]
  refine List.rel_flatMap (List.forall₂_same.2 fun _ _ => rfl) ?_
  rintro table _ rfl
  rw [List.forall₂_map_left_iff, List.forall₂_map_right_iff, List.forall₂_same]
  exact fun index _ => ⟨rfl, index.read_statement table.name⟩

theorem hasColumns_of_readTable {name : String} {table : Table} {wanted : List String} (hm : name ∈ names)
    (h : (source.readTable name).value = .ok table) :
    HasColumns ((source.tablesOf (orderedBy id names)).map Table.declaration) name wanted ↔
      ∀ column ∈ wanted, column ∈ table.columns.map (·.name) := by
  rw [hasColumns_declarations, and_iff_right hm]
  constructor
  · rintro ⟨_, h', hc⟩
    obtain rfl := Except.ok.inj (h.symm.trans h')
    exact hc
  · exact fun hc => ⟨table, h, hc⟩

theorem forall_indexesOf {p : IndexDeclaration → Prop} :
    (∀ index ∈ source.indexesOf (orderedBy id names), p index) ↔
      ∀ name ∈ names, ∀ table, (source.readTable name).value = .ok table →
        ∀ index ∈ table.ownIndexes, p (index.declaration name) := by
  constructor
  · intro h name hm table ht index hi
    refine h _ (List.mem_flatMap.2 ⟨table, mem_tablesOf.2 ⟨name, mem_orderedBy.2 hm, ht⟩, ?_⟩)
    exact List.mem_map.2 ⟨index, hi, by rw [name_of_readTable ht]⟩
  · intro h declared hd
    obtain ⟨table, ht, hd⟩ := List.mem_flatMap.1 hd
    obtain ⟨index, hi, rfl⟩ := List.mem_map.1 hd
    obtain ⟨hm, hr⟩ := readTable_of_mem ht
    exact h table.name (mem_orderedBy.1 hm) table hr index hi

/-- **Indexes are over declared columns exactly if they are over reported columns.** -/
theorem indexColumns_iff (h : (source.run countRows).value = .ok run) :
    ∃ names declarations indexes, source.tableNames = .ok names ∧ run.Declares declarations ∧
      ((∀ table ∈ source.readableTables, ∀ text ∈ table.rawDefaults, IsSelfContained text.toList) →
        run.document.tableBlocks.map (TableDeclaration.read ·.sql) = declarations.map some) ∧
      run.DeclaresIndexes indexes ∧
      ((∀ index ∈ indexes, HasColumns declarations index.table index.columns) ↔ source.IndexesReported names) := by
  obtain ⟨names, hn, -⟩ := exists_names_of_run h
  refine ⟨names, _, _, hn, declares_of_run h hn, read_tableBlocks h hn, declaresIndexes_of_run h hn, forall_indexesOf.trans ?_⟩
  constructor
  · intro hall name hm columns keys indexes hc hk hi hs
    have ht : (source.readTable name).value = .ok (.described name columns keys indexes) :=
      readTable_eq_ok_iff.2 ⟨columns, keys, indexes, ⟨hc, hk, hi⟩, hs, rfl⟩
    have ho : ∀ index ∈ (Table.described name columns keys indexes).ownIndexes, ∀ column ∈ index.columns,
        column ∈ columns.map (·.name) := by
      intro index hi column hw
      exact Table.mem_columnNames.1 ((hasColumns_of_readTable hm ht).1 (hall name hm _ ht index hi) column hw)
    exact Table.forall_ownIndexes.1 ho
  · intro hall name hm table ht index hi
    refine (hasColumns_of_readTable hm ht).2 fun column hw => ?_
    obtain ⟨columns, keys, indexes, ⟨hc, hk, hx⟩, hs, rfl⟩ := readTable_eq_ok_iff.1 ht
    exact Table.mem_columnNames.2
      (Table.forall_ownIndexes.2 (hall name hm columns keys indexes hc hk hx hs) index hi column hw)

/-- A database with a generated column `b`, and an index over one of its columns. -/
def indexed (column : String) : Source :=
  Database.source (.ofChanges [
    .createTable ⟨"g", [⟨"a", "INTEGER", false, false, false, false, none, none, none⟩,
      ⟨"b", "INTEGER", false, false, false, false, none, some "a + 1", none⟩], none, [], [], false⟩,
    .createIndex ⟨"ib", "g", false, [.column column], none⟩]) "test.db"

/-- What that database reports. -/
structure ReportsIndex (column : String) : Prop where
  names : (indexed column).tableNames = .ok ["g"]
  columns : (indexed column).columns "g" = .ok [⟨0, "a", "INTEGER", false, none, 0⟩]
  indexes : (indexed column).indexes "g" = .ok [⟨"ib", false, some .createIndex, [some column]⟩]

theorem reports_plain : ReportsIndex "a" where
  names := toOption_eq_some_iff.1 (by decide +kernel)
  columns := toOption_eq_some_iff.1 (by decide +kernel)
  indexes := toOption_eq_some_iff.1 (by decide +kernel)

theorem indexColumns_iff_plain :
    ∃ run, ((indexed "a").run false).value = .ok run ∧
      ∃ declarations indexes, run.Declares declarations ∧ run.DeclaresIndexes indexes ∧
        ∀ index ∈ indexes, HasColumns declarations index.table index.columns := by
  have hr := (indexed "a").run_value false
  rw [reports_plain.names] at hr
  obtain ⟨names, declarations, indexes, hn, hd, -, hi, hc⟩ := indexColumns_iff hr
  obtain rfl := Except.ok.inj (reports_plain.names.symm.trans hn)
  refine ⟨_, hr, declarations, indexes, hd, hi, hc.2 fun name hm columns keys rows hk _ hx _ row hw _ _ column he => ?_⟩
  obtain rfl := List.mem_singleton.1 hm
  obtain rfl := Except.ok.inj (reports_plain.columns.symm.trans hk)
  obtain rfl := Except.ok.inj (reports_plain.indexes.symm.trans hx)
  obtain rfl := List.mem_singleton.1 hw
  obtain rfl := Option.some.inj (List.mem_singleton.1 he)
  decide

/-- The run over that database where the index is over the generated column. -/
def uncovered : Run where
  document := ⟨[.createTable "g" "CREATE TABLE IF NOT EXISTS g (\"a\" INTEGER);",
    .createIndex "g" "ib" "CREATE INDEX IF NOT EXISTS \"ib\" ON \"g\" (\"b\");"]⟩
  report := ⟨"test.db", 1, [⟨"g", 1, 0, 1, none⟩], []⟩

def uncoveredTables : List TableDeclaration :=
  [⟨"g", [⟨"a", "INTEGER", false, false, none⟩], none, []⟩]

theorem run_uncovered : ((indexed "b").run false).value = .ok uncovered :=
  toOption_eq_some_iff.1 (by decide +kernel)

/-- **An index over a generated column is over no column of the document**, which declares the table without it. -/
theorem not_indexColumns_uncovered :
    ((indexed "b").run false).value = .ok uncovered ∧
      uncovered.document.tableBlocks.map (TableDeclaration.read ·.sql) = uncoveredTables.map some ∧
      uncovered.document.indexBlocks.map (IndexDeclaration.read ·.sql) = [some ⟨false, "ib", "g", ["b"]⟩] ∧
      ¬ HasColumns uncoveredTables "g" ["b"] :=
  ⟨run_uncovered, by decide +kernel, by decide +kernel, by decide +kernel⟩

end Source

end CatalogDdl
