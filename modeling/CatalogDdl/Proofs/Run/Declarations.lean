import CatalogDdl.Proofs.Run.Entries
import CatalogDdl.Proofs.Table.RoundTrip

/-! # What a run declares

The tables of a run as its statements declare them.

* `TableDeclaration.IsMadeOf`: a statement that is made of clauses that declare a table. `IsWrittenAs`: one that can
  be cut into such clauses.
* `Run.Declares`: the tables that the statements of a run declare, in their order.
* `HasColumns`: whether declared tables have columns of these names in a table of this name.
* `Source.hasColumns_declarations`: they have if the source reports them.
-/

namespace CatalogDdl
set_option autoImplicit false
open Sql

/-! ## Statements -/

namespace Sql

namespace TableDeclaration
variable (declaration : TableDeclaration) (sql : String)

/-- A statement made of the name of a table and of clauses that declare this. -/
structure IsMadeOf (texts : List (List Char)) : Prop where
  name : (after? "CREATE TABLE IF NOT EXISTS " sql.toList).bind readTableName =
    some (declaration.name, " (".toList ++ ([',', ' '].intercalate texts ++ [')', ';']))
  clauses : (texts.mapM readClause).bind (ofClauses declaration.name) = some declaration

def IsWrittenAs : Prop :=
  ∃ texts, declaration.IsMadeOf sql texts

variable {declaration sql}

/-- The reader finds the clauses by itself where they are self-contained. -/
theorem IsMadeOf.read_eq {texts : List (List Char)} (h : declaration.IsMadeOf sql texts)
    (hs : ∀ text ∈ texts, IsSelfContained text ∧ ∃ c cs, text = c :: cs ∧ c ≠ ' ') :
    TableDeclaration.read sql = some declaration := by
  obtain ⟨cs, ha, hn⟩ := Option.bind_eq_some_iff.1 h.name
  have ht := clauseTexts_intercalate [';'] hs
  rw [TableDeclaration.read, ha]
  simp only [Option.bind_eq_bind, Option.bind_some, hn, after?_append, ht, if_true]
  exact h.clauses

end TableDeclaration

/-- Whether a table of this name is declared, with columns of these names. -/
def HasColumns (tables : List TableDeclaration) (name : String) (columns : List String) : Prop :=
  ∃ table ∈ tables, table.name = name ∧ ∀ column ∈ columns, column ∈ table.columns.map (·.name)

instance (tables : List TableDeclaration) (name : String) (columns : List String) :
    Decidable (HasColumns tables name columns) :=
  inferInstanceAs (Decidable (∃ table ∈ tables, _ ∧ _))

end Sql

namespace Table
variable (table : Table)

theorem isMadeOf_createStatement :
    table.declaration.IsMadeOf table.createStatement (table.clauses.map (·.sql.toList)) := by
  have hn : ∀ c ∈ (" (".toList ++ ([',', ' '].intercalate (table.clauses.map (·.sql.toList)) ++ [')', ';'])).head?,
      isNameChar c = false ∧ c ≠ '"' := by
    intro c hc
    obtain rfl : ' ' = c := Option.some.inj hc
    decide
  constructor
  · rw [createStatement, toList_createTable, after?_append, Option.bind_some, readTableName_plainIdentifier _ hn]
    rfl
  · rw [mapM_clauses, Option.bind_some, declarations, ofClauses_declarations]

theorem map_name_columns : table.declaration.columns.map (·.name) = table.columns.map (·.name) := by
  rw [declaration, List.map_map]
  rfl

end Table

/-! ## Tables of a run -/

theorem toOption_eq_some_iff {α : Type} {result : Except Failure α} {a : α} :
    result.toOption = some a ↔ result = .ok a := by
  cases result <;> simp [Except.toOption]

/-- Whether the statements that create the tables of a run declare these, one by one. -/
def Run.Declares (run : Run) (declarations : List TableDeclaration) : Prop :=
  List.Forall₂ (fun block declaration => block.table = declaration.name ∧ declaration.IsWrittenAs block.sql)
    run.document.tableBlocks declarations

namespace Source
variable (source : Source) (countRows : Bool)

/-- The tables of some names, as far as they can be read. -/
def tablesOf (names : List String) : List Table :=
  names.filterMap fun name => (source.readTable name).value.toOption

variable {source countRows} in
/-- What comes of the tables that can be read, and of no others, comes of them in their order. -/
theorem flatMap_readTable {α : Type} {part : String → List α} {own : Table → List α}
    (hr : ∀ name table, (source.readTable name).value = .ok table → part name = own table)
    (hs : ∀ name cause, (source.readTable name).value = .error cause → part name = []) (names : List String) :
    names.flatMap part = (source.tablesOf names).flatMap own := by
  rw [tablesOf, List.filterMap_eq_flatMap_toList, List.flatMap_assoc]
  refine List.flatMap_congr fun name _ => ?_
  cases h : (source.readTable name).value with
  | ok table => exact (hr name table h).trans (List.append_nil _).symm
  | error cause => exact hs name cause h

theorem flatMap_outcome {α : Type} (part : Entry → List α) (hs : ∀ name cause, part (.skipped name cause) = [])
    (own : Table → List α) (hr : ∀ table rows, part (.read table rows) = own table) (names : List String) :
    (names.map (source.outcome countRows)).flatMap part = (source.tablesOf names).flatMap own := by
  rw [List.flatMap_map]
  refine flatMap_readTable (fun name table h => ?_) (fun name cause h => ?_) names
  · rw [outcome, h, hr]
  · rw [outcome, h, hs]

variable {source countRows}

theorem mem_tablesOf {names : List String} {table : Table} :
    table ∈ source.tablesOf names ↔ ∃ name ∈ names, (source.readTable name).value = .ok table := by
  rw [tablesOf, List.mem_filterMap]
  simp only [toOption_eq_some_iff]

theorem name_of_readTable {name : String} {table : Table} (h : (source.readTable name).value = .ok table) :
    table.name = name := by
  obtain ⟨_, _, _, -, -, rfl⟩ := readTable_eq_ok_iff.1 h
  rfl

theorem readTable_of_mem {names : List String} {table : Table} (h : table ∈ source.tablesOf names) :
    table.name ∈ names ∧ (source.readTable table.name).value = .ok table := by
  obtain ⟨name, hm, hr⟩ := mem_tablesOf.1 h
  obtain rfl := name_of_readTable hr
  exact ⟨hm, hr⟩

theorem map_name_tablesOf (names : List String) :
    (source.tablesOf names).map (·.name) = names.filter fun name => (source.readTable name).value.toOption.isSome := by
  induction names with
  | nil => rfl
  | cons name names ih =>
    rw [tablesOf, List.filterMap_cons, List.filter_cons]
    cases h : (source.readTable name).value with
    | error cause => exact ih
    | ok table => exact congrArg₂ _ (name_of_readTable h) ih

section
variable {run : Run} {names : List String}

/-- The blocks of a run are those of the tables that can be read, in the order of the names. -/
theorem blocks_of_run (h : (source.run countRows).value = .ok run) (hn : source.tableNames = .ok names) :
    run.document.tableBlocks =
        (source.tablesOf (orderedBy id names)).map (fun table => .createTable table.name table.createStatement) ∧
      run.document.indexBlocks = (source.tablesOf (orderedBy id names)).flatMap fun table =>
        table.ownIndexes.map fun index => .createIndex table.name index.name (index.createStatement table.name) := by
  obtain ⟨_, hn', rfl⟩ := exists_names_of_run h
  obtain rfl := Except.ok.inj (hn.symm.trans hn')
  constructor
  · rw [Run.tableBlocks_ofEntries, source.flatMap_outcome countRows _ (fun _ _ => rfl)
      (fun table => [.createTable table.name table.createStatement]) fun _ _ => rfl]
    exact List.map_eq_flatMap.symm
  · rw [Run.indexBlocks_ofEntries, source.flatMap_outcome countRows _ (fun _ _ => rfl) _ fun _ _ => rfl]

/-- All blocks of a table that can be read stand in the document. -/
theorem mem_blocks (h : (source.run countRows).value = .ok run) (hn : source.tableNames = .ok names) {table : Table}
    (ht : table ∈ source.tablesOf (orderedBy id names)) :
    .createTable table.name table.createStatement ∈ run.document.blocks ∧
      ∀ index ∈ table.ownIndexes,
        .createIndex table.name index.name (index.createStatement table.name) ∈ run.document.blocks := by
  obtain ⟨hb, hi⟩ := blocks_of_run h hn
  constructor
  · have hm : Block.createTable table.name table.createStatement ∈ run.document.tableBlocks := by
      rw [hb]
      exact List.mem_map_of_mem ht
    exact (List.mem_filter.1 hm).1
  · intro index ho
    have hm : Block.createIndex table.name index.name (index.createStatement table.name) ∈ run.document.indexBlocks := by
      rw [hi]
      exact List.mem_flatMap.2 ⟨table, ht, List.mem_map_of_mem ho⟩
    exact (List.mem_filter.1 hm).1

theorem tableNames_of_run (h : (source.run countRows).value = .ok run) (hn : source.tableNames = .ok names) :
    run.report.tables.map (·.tableName) = (source.tablesOf (orderedBy id names)).map (·.name) := by
  obtain ⟨_, hn', rfl⟩ := exists_names_of_run h
  obtain rfl := Except.ok.inj (hn.symm.trans hn')
  rw [Run.tables_ofEntries, List.filterMap_eq_flatMap_toList, List.map_flatMap,
    source.flatMap_outcome countRows _ (fun _ _ => rfl) (fun table => [table.name]) fun _ _ => rfl]
  exact List.map_eq_flatMap.symm

/-- The tables of a report are those that are listed and can be read. -/
theorem mem_tableNames_of_run (h : (source.run countRows).value = .ok run) (hn : source.tableNames = .ok names)
    {name : String} :
    name ∈ run.report.tables.map (·.tableName) ↔
      name ∈ names ∧ ∃ table, (source.readTable name).value = .ok table := by
  rw [tableNames_of_run h hn]
  constructor
  · intro hm
    obtain ⟨table, ht, rfl⟩ := List.mem_map.1 hm
    obtain ⟨hm, hr⟩ := readTable_of_mem ht
    exact ⟨mem_orderedBy.1 hm, table, hr⟩
  · rintro ⟨hm, table, hr⟩
    rw [← name_of_readTable hr]
    exact List.mem_map_of_mem (mem_tablesOf.2 ⟨name, mem_orderedBy.2 hm, hr⟩)

theorem declares_of_run (h : (source.run countRows).value = .ok run) (hn : source.tableNames = .ok names) :
    run.Declares ((source.tablesOf (orderedBy id names)).map Table.declaration) := by
  rw [Run.Declares, (blocks_of_run h hn).1, List.forall₂_map_left_iff, List.forall₂_map_right_iff, List.forall₂_same]
  exact fun table _ => ⟨rfl, _, table.isMadeOf_createStatement⟩

/-- The statements that create tables are read back where the default expressions are self-contained. -/
theorem read_tableBlocks (h : (source.run countRows).value = .ok run) (hn : source.tableNames = .ok names)
    (hd : ∀ table ∈ source.readableTables, ∀ text ∈ table.rawDefaults, IsSelfContained text.toList) :
    run.document.tableBlocks.map (TableDeclaration.read ·.sql) =
      ((source.tablesOf (orderedBy id names)).map Table.declaration).map some := by
  rw [(blocks_of_run h hn).1, List.map_map, List.map_map]
  refine List.map_congr_left fun table ht => table.isMadeOf_createStatement.read_eq fun text hm => ?_
  obtain ⟨clause, hc, rfl⟩ := List.mem_map.1 hm
  have hr : table ∈ source.readableTables := by
    obtain ⟨hm, hr⟩ := readTable_of_mem ht
    rw [readableTables, hn]
    exact mem_tablesOf.2 ⟨table.name, mem_orderedBy.1 hm, hr⟩
  exact ⟨composes_selfContained.clauses (hd table hr) clause hc, Table.head?_clauses hc⟩

end

/-- Declared columns are columns of a table that is listed and can be read. -/
theorem hasColumns_declarations {names : List String} {name : String} {wanted : List String} :
    HasColumns ((source.tablesOf (orderedBy id names)).map Table.declaration) name wanted ↔
      name ∈ names ∧ ∃ table, (source.readTable name).value = .ok table ∧
        ∀ column ∈ wanted, column ∈ table.columns.map (·.name) := by
  constructor
  · rintro ⟨_, hd, rfl, hc⟩
    obtain ⟨table, ht, rfl⟩ := List.mem_map.1 hd
    obtain ⟨hn, hr⟩ := readTable_of_mem ht
    rw [Table.map_name_columns] at hc
    exact ⟨mem_orderedBy.1 hn, table, hr, hc⟩
  · rintro ⟨hn, table, hr, hc⟩
    rw [← table.map_name_columns] at hc
    exact ⟨_, List.mem_map_of_mem (mem_tablesOf.2 ⟨name, mem_orderedBy.2 hn, hr⟩), name_of_readTable hr, hc⟩

end Source

end CatalogDdl
