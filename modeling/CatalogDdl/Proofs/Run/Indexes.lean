import CatalogDdl.Proofs.Run.Accounting
import CatalogDdl.Proofs.Run.IndexColumns
import CatalogDdl.Proofs.Table.Events

/-! # What becomes of indexes

An index that a source reports is stated in the document, or the log warns of it, or a primary key implies it.

* `IndexRow.fate`: which of the three it is, from what is reported of the index alone.
* `ReportedIndex.IsStatedBy`: a block that states an index, with all that is reported of it.
* `Source.KeepsIndexes`: how document and log of a run account for all indexes of the tables that it translates.
-/

namespace CatalogDdl
set_option autoImplicit false
open Sql

/-! ## Fates -/

inductive IndexFate
  | stated | warned | implied
deriving DecidableEq, Repr

/-- Expressions come first: an index over one is warned of even where a primary key made it. -/
def IndexRow.fate (row : IndexRow) : IndexFate :=
  if none ∈ row.columns then .warned
  else if "sqlite_autoindex_".toList <+: row.name.toList ∧ row.origin ≠ some .uniqueConstraint then .implied
  else .stated

structure ReportedIndex where
  table : String
  row : IndexRow
deriving DecidableEq, Repr

namespace ReportedIndex

def expressionMessage : String :=
  "Skipping index on expressions, only plain columns can be translated"

def warning (index : ReportedIndex) : LogLine :=
  ⟨.warning, expressionMessage, [("table", .text index.table), ("index", .text index.row.name)]⟩

/-- A block that creates the index, with its columns in order. -/
def IsStatedBy (index : ReportedIndex) (block : Block) : Prop :=
  ∃ columns sql, index.row.columns = columns.map some ∧ block = .createIndex index.table index.row.name sql ∧
    IndexDeclaration.read sql = some ⟨index.row.unique, index.row.name, index.table, columns⟩

end ReportedIndex

theorem IndexRow.isImplicit_iff {row : IndexRow} :
    row.isImplicit = true ↔
      "sqlite_autoindex_".toList <+: row.name.toList ∧ row.origin ≠ some .uniqueConstraint := by
  rw [isImplicit, Bool.and_eq_true, List.isPrefixOf_iff_prefix, bne_iff_ne, automaticStem]

theorem IndexRow.fate_of_columns {row : IndexRow} (h : none ∉ row.columns) :
    row.fate = if row.isImplicit then .implied else .stated := by
  simp only [fate, if_neg h, ← isImplicit_iff]

theorem IndexRow.fate_eq_warned_iff {row : IndexRow} : row.fate = .warned ↔ none ∈ row.columns := by
  by_cases h : none ∈ row.columns
  · rw [fate, if_pos h]
    exact iff_of_true rfl h
  · rw [fate_of_columns h]
    split <;> simp [h]

/-! ## The indexes of one table -/

namespace Index

/-- The blocks of the indexes of a table. -/
def blocks (table : String) (indexes : List Index) : List Block :=
  (indexes.filter (!·.isImplicit)).map fun index => .createIndex table index.name (index.createStatement table)

theorem forall₂_isStatedBy (table : String) (rows : List IndexRow) :
    List.Forall₂ ReportedIndex.IsStatedBy ((rows.map (ReportedIndex.mk table)).filter (·.row.fate = .stated))
      (blocks table (ofRows table rows).value) := by
  rw [value_ofRows]
  induction rows with
  | nil => exact .nil
  | cons row rows ih =>
    -- A row is left out for an expression or for its origin, of which reading checks the one and writing the other.
    rw [List.map_cons, List.filter_cons, List.filterMap_cons]
    by_cases hm : none ∈ row.columns
    · rw [ofRow?_eq_none_iff.2 hm, if_neg (by simp [IndexRow.fate_eq_warned_iff.2 hm])]
      exact ih
    · obtain ⟨columns, hc⟩ := exists_map_some hm
      have ho : ofRow? row = some ⟨row.name, row.unique, columns, row.isImplicit⟩ := ofRow?_eq_some_iff.2 ⟨hc, rfl⟩
      rw [ho]
      cases hi : row.isImplicit with
      | true =>
        rw [if_neg (by simp [IndexRow.fate_of_columns hm, hi])]
        exact ih
      | false =>
        rw [if_pos (by simp [IndexRow.fate_of_columns hm, hi])]
        exact .cons ⟨columns, _, hc, rfl, read_statement _ _⟩ ih

theorem lines_ofRows (table : String) (rows : List IndexRow) :
    (ofRows table rows).events.map Event.line =
      ((rows.map (ReportedIndex.mk table)).filter (·.row.fate = .warned)).map ReportedIndex.warning := by
  have hf : (rows.filter fun row => none ∈ row.columns) = rows.filter fun row => row.fate = .warned :=
    List.filter_congr fun row _ => by simp [IndexRow.fate_eq_warned_iff]
  rw [events_ofRows, hf, List.filter_map, List.map_map, List.map_map]
  rfl

end Index

/-! ## The log of a run -/

namespace Source
variable {source : Source} {countRows : Bool} {name message : String} {table : Table}

theorem linesOf_rowsOf (h : message ≠ "Failed to count rows") :
    linesOf message (source.rowsOf countRows name).events = [] := by
  refine linesOf_eq_nil fun event he => ?_
  rw [rowsOf] at he
  split at he
  · split at he
    · exact absurd he List.not_mem_nil
    · obtain rfl := List.mem_singleton.1 he
      exact h.symm
  · exact absurd he List.not_mem_nil

/-- The lines of an entry are those of its table, but for those about the entry itself. -/
theorem linesOf_entry (h : message ∉ ["Failed to count rows", "Translated table", "Skipping table"]) :
    linesOf message (source.entry countRows name).events = linesOf message (source.readTable name).events := by
  obtain ⟨hc, ht, hs⟩ : message ≠ "Failed to count rows" ∧ message ≠ "Translated table" ∧
      message ≠ "Skipping table" := by simpa using h
  have hone : ∀ event : Event, event.message ≠ message → linesOf message [event] = [] := by
    intro event he
    refine linesOf_eq_nil fun other ho => ?_
    rwa [List.mem_singleton.1 ho]
  cases hr : (source.readTable name).value with
  | ok table =>
    rw [events_entry_ok hr, linesOf_append, linesOf_append, linesOf_rowsOf hc, hone (.tableConverted ..) ht.symm]
    exact List.append_nil _
  | error cause =>
    rw [events_entry_error hr, linesOf_append, hone (.tableSkipped ..) hs.symm, List.append_nil]

theorem lines_readTable_error {cause : Failure} (h : (source.readTable name).value = .error cause) :
    linesOf ReportedIndex.expressionMessage (source.readTable name).events = [] := by
  have hu : ∀ event ∈ (source.readTable name).events, ∃ action, event = .unknownAction action := by
    rw [readTable] at h ⊢
    split at h
    · exact fun event he => absurd he List.not_mem_nil
    · exact Table.events_of_error h
  exact linesOf_unknownAction hu (by decide)

/-- The rows that a source reports for the indexes of a table. -/
def indexRows (source : Source) (table : String) : List IndexRow :=
  (source.indexes table).toOption.getD []

theorem indexRows_of_readTable (h : (source.readTable name).value = .ok table) :
    source.indexes name = .ok (source.indexRows name) ∧
      table.indexes = (Index.ofRows name (source.indexRows name)).value := by
  obtain ⟨columns, keys, indexes, ⟨-, -, hi⟩, -, rfl⟩ := readTable_eq_ok_iff.1 h
  rw [indexRows, hi]
  exact ⟨rfl, rfl⟩

theorem lines_readTable_ok (h : (source.readTable name).value = .ok table) :
    linesOf ReportedIndex.expressionMessage (source.readTable name).events =
      (((source.indexRows name).map (ReportedIndex.mk name)).filter (·.row.fate = .warned)).map
        ReportedIndex.warning := by
  obtain ⟨columns, keys, indexes, hq, -, -⟩ := readTable_eq_ok_iff.1 h
  have hk : linesOf ReportedIndex.expressionMessage (ForeignKey.ofRows keys).events = [] :=
    linesOf_unknownAction (fun _ => ForeignKey.eq_unknownAction_of_mem) (by decide)
  have hi : linesOf ReportedIndex.expressionMessage (Index.ofRows name indexes).events =
      (Index.ofRows name indexes).events.map Event.line := by
    refine linesOf_eq_map fun event he => ?_
    rw [Index.events_ofRows] at he
    obtain ⟨row, -, rfl⟩ := List.mem_map.1 he
    rfl
  have hr : source.indexRows name = indexes := by rw [indexRows, hq.2.2]; rfl
  rw [readTable, tableRows_eq_ok_iff.2 hq] at h ⊢
  rw [Table.events_of_ok h, linesOf_append, hk, List.nil_append, hi, Index.lines_ofRows, hr]

/-! ## Runs -/

/-- The indexes that a source reports for some tables, in order. -/
def reportedIndexes (source : Source) (tables : List String) : List ReportedIndex :=
  tables.flatMap fun table => (source.indexRows table).map (ReportedIndex.mk table)

theorem filter_reportedIndexes (p : ReportedIndex → Bool) (tables : List String) :
    (source.reportedIndexes tables).filter p =
      tables.flatMap fun table => ((source.indexRows table).map (ReportedIndex.mk table)).filter p := by
  rw [reportedIndexes, List.filter_flatMap]

theorem lines_entries (names : List String) :
    linesOf ReportedIndex.expressionMessage (names.flatMap fun name => (source.entry countRows name).events) =
      ((source.reportedIndexes ((source.tablesOf names).map (·.name))).filter (·.row.fate = .warned)).map
        ReportedIndex.warning := by
  rw [filter_reportedIndexes, List.flatMap_map, List.map_flatMap, linesOf_flatMap]
  refine flatMap_readTable (fun name table h => ?_) (fun name cause h => ?_) names
  · rw [linesOf_entry (by decide), lines_readTable_ok h, name_of_readTable h]
  · rw [linesOf_entry (by decide), lines_readTable_error h]

theorem forall₂_isStatedBy (names : List String) :
    List.Forall₂ ReportedIndex.IsStatedBy
      ((source.reportedIndexes ((source.tablesOf names).map (·.name))).filter (·.row.fate = .stated))
      ((source.tablesOf names).flatMap fun table => Index.blocks table.name table.indexes) := by
  rw [filter_reportedIndexes, List.flatMap_map]
  have hr : ∀ table ∈ source.tablesOf names, List.Forall₂ ReportedIndex.IsStatedBy
      (((source.indexRows table.name).map (ReportedIndex.mk table.name)).filter (·.row.fate = .stated))
      (Index.blocks table.name table.indexes) := by
    intro table ht
    rw [(indexRows_of_readTable (readTable_of_mem ht).2).2]
    exact Index.forall₂_isStatedBy _ _
  refine List.rel_flatMap (R := fun a b => a = b ∧ a ∈ source.tablesOf names)
    (List.forall₂_same.2 fun _ h => ⟨rfl, h⟩) ?_
  rintro table _ ⟨rfl, ht⟩
  exact hr table ht

/-- The statements of a table, as often as it stands in a list of tables. -/
theorem sql_blocks_of_name {tables : List Table} (hu : ∀ other ∈ tables, other.name = table.name → other = table) :
    ((tables.flatMap fun other => Index.blocks other.name other.indexes).filter (·.table == table.name)).map (·.sql) =
      (List.replicate ((tables.map (·.name)).count table.name) table.indexStatements).flatten := by
  induction tables with
  | nil => rfl
  | cons other tables ih =>
    have ht : ∀ block ∈ Index.blocks other.name other.indexes, block.table = other.name := by
      intro block hb
      obtain ⟨index, -, rfl⟩ := List.mem_map.1 hb
      rfl
    rw [List.flatMap_cons, List.filter_append, List.map_append, ih fun t hm => hu t (List.mem_cons_of_mem _ hm),
      List.map_cons]
    by_cases he : other.name = table.name
    · obtain rfl := hu other List.mem_cons_self he
      have hs : (Index.blocks other.name other.indexes).map (·.sql) = other.indexStatements := by
        rw [Index.blocks, List.map_map]
        rfl
      rw [List.filter_eq_self.2 fun block hb => by simp [ht block hb], hs, List.count_cons_self, List.replicate_succ,
        List.flatten_cons]
    · rw [List.filter_eq_nil_iff.2 fun block hb => by simp [ht block hb, he], List.count_cons_of_ne he]
      rfl

/-- How document and log account for the indexes of the tables that a run translates. -/
structure KeepsIndexes (source : Source) (names tables : List String) (run : Run) (events : List Event) : Prop where
  tables_eq : tables = run.report.tables.map (·.tableName)
  /-- The tables are all listed ones that are not skipped, as often as they are listed. -/
  tables_perm : tables.Perm (names.filter fun name => name ∉ run.report.skipped.map (·.tableName))
  ordered : InByteOrder tables
  answered : ∀ table ∈ tables, source.indexes table = .ok (source.indexRows table)
  stated : List.Forall₂ ReportedIndex.IsStatedBy
    ((source.reportedIndexes tables).filter (·.row.fate = .stated)) run.document.indexBlocks
  warned : linesOf ReportedIndex.expressionMessage events =
    ((source.reportedIndexes tables).filter (·.row.fate = .warned)).map ReportedIndex.warning
  /-- No other warning names an index and its table, where these are named once. -/
  once : ∀ index, ((source.reportedIndexes tables).filter fun other =>
      other.table = index.table ∧ other.row.name = index.row.name) = [index] →
    (linesOf ReportedIndex.expressionMessage events).count index.warning = if index.row.fate = .warned then 1 else 0
  /-- The blocks of a table are its index statements, once more each time it is listed. -/
  own : ∀ name table, (source.readTable name).value = .ok table →
    (run.document.indexBlocks.filter (·.table == name)).map (·.sql) =
      (List.replicate (names.count name) table.indexStatements).flatten

theorem count_warnings {indexes : List ReportedIndex} {index : ReportedIndex}
    (h : (indexes.filter fun other => other.table = index.table ∧ other.row.name = index.row.name) = [index]) :
    ((indexes.filter (·.row.fate = .warned)).map ReportedIndex.warning).count index.warning =
      if index.row.fate = .warned then 1 else 0 := by
  have hw : ∀ other : ReportedIndex, (other.warning == index.warning) =
      decide (other.table = index.table ∧ other.row.name = index.row.name) := by
    intro other
    rw [beq_eq_decide]
    refine decide_eq_decide.2 ?_
    simp [ReportedIndex.warning]
  have hf : ((indexes.filter (·.row.fate = .warned)).filter fun other => other.warning == index.warning) =
      [index].filter (·.row.fate = .warned) := by
    rw [← h, List.filter_filter, List.filter_filter]
    exact List.filter_congr fun other _ => by rw [hw other, Bool.and_comm]
  -- The warnings that read the same come of the indexes that are named the same.
  rw [List.count, List.countP_map, List.countP_eq_length_filter]
  change (List.filter (fun other : ReportedIndex => other.warning == index.warning) _).length = _
  rw [hf, List.filter_singleton]
  by_cases he : index.row.fate = .warned <;> simp [he]

section
variable {run : Run} {names : List String}

/-- **No index is lost silently.** -/
theorem run_keepsIndexes (h : (source.run countRows).value = .ok run) :
    ∃ names tables, source.tableNames = .ok names ∧
      source.KeepsIndexes names tables run (source.run countRows).events := by
  obtain ⟨names, hn, -⟩ := exists_names_of_run h
  have ht := tableNames_of_run h hn
  have hf : (source.tablesOf (orderedBy id names)).map (·.name) =
      (orderedBy id names).filter fun name => name ∉ run.report.skipped.map (·.tableName) := by
    rw [map_name_tablesOf]
    refine List.filter_congr fun name hm => ?_
    rw [Bool.eq_iff_iff, decide_eq_true_eq, not_mem_skipped_iff countRows hn h (mem_orderedBy.1 hm)]
  have hw : linesOf ReportedIndex.expressionMessage (source.run countRows).events =
      ((source.reportedIndexes ((source.tablesOf (orderedBy id names)).map (·.name))).filter
        (·.row.fate = .warned)).map ReportedIndex.warning := by
    rw [events_run source countRows hn, lines_entries]
  refine ⟨names, _, hn, {
    tables_eq := ht.symm
    tables_perm := hf ▸ (orderedBy_perm id names).filter _
    ordered := hf ▸ (inByteOrder_orderedBy names).sublist List.filter_sublist
    answered := ?_
    stated := (blocks_of_run h hn).2 ▸ forall₂_isStatedBy _
    warned := hw
    once := fun index hu => hw ▸ count_warnings hu
    own := ?_ }⟩
  · intro name hm
    obtain ⟨table, ht, rfl⟩ := List.mem_map.1 hm
    obtain ⟨name, -, hr⟩ := mem_tablesOf.1 ht
    obtain rfl := name_of_readTable hr
    exact (indexRows_of_readTable hr).1
  · intro name table hr
    have hu : ∀ other ∈ source.tablesOf (orderedBy id names), other.name = table.name → other = table := by
      intro other ho he
      obtain ⟨found, -, hf⟩ := mem_tablesOf.1 ho
      obtain rfl := name_of_readTable hf
      rw [he, name_of_readTable hr, hr] at hf
      exact (Except.ok.inj hf).symm
    obtain rfl := name_of_readTable hr
    have hc : ((source.tablesOf (orderedBy id names)).map (·.name)).count table.name = names.count table.name := by
      rw [map_name_tablesOf, List.count_filter (by rw [hr]; rfl), (orderedBy_perm id names).count_eq]
    rw [(blocks_of_run h hn).2, ← hc]
    exact sql_blocks_of_name hu

end

/-- A source that lists a table twice, and a table without columns. Two of the five indexes of each table are stated. -/
def manifold : Source where
  databaseName := "db"
  tableNames := .ok ["t", "s", "t", "u"]
  columns := fun name => .ok (if name = "u" then [] else [⟨0, "a", "INT", false, none, 1⟩, ⟨1, "b", "", false, none, 0⟩])
  foreignKeys := fun _ => .ok []
  indexes := fun name => .ok [
    ⟨"sqlite_autoindex_1", true, some .primaryKey, [some "a"]⟩,
    ⟨"sqlite_autoindex_2", true, some .uniqueConstraint, [some "b"]⟩,
    ⟨"sqlite_autoindex_3", true, none, [some "a", none]⟩,
    ⟨"i" ++ name, false, some .createIndex, [some "b", some "a"]⟩,
    ⟨"e" ++ name, false, some .createIndex, [none]⟩]
  rowCount := fun _ => .error (.io "denied")

def manifoldStatements (name : String) : List String := [
  "CREATE UNIQUE INDEX IF NOT EXISTS \"sqlite_autoindex_2\" ON \"" ++ name ++ "\" (\"b\");",
  "CREATE INDEX IF NOT EXISTS \"i" ++ name ++ "\" ON \"" ++ name ++ "\" (\"b\", \"a\");"]

theorem run_keepsIndexes_manifold :
    ∃ run, (manifold.run true).value = .ok run ∧
      manifold.KeepsIndexes ["t", "s", "t", "u"] ["s", "t", "t"] run (manifold.run true).events ∧
      run.document.indexBlocks.map (·.sql) =
        manifoldStatements "s" ++ (manifoldStatements "t" ++ manifoldStatements "t") ∧
      (linesOf ReportedIndex.expressionMessage (manifold.run true).events).map (·.fields) =
        [[("table", .text "s"), ("index", .text "sqlite_autoindex_3")], [("table", .text "s"), ("index", .text "es")],
          [("table", .text "t"), ("index", .text "sqlite_autoindex_3")], [("table", .text "t"), ("index", .text "et")],
          [("table", .text "t"), ("index", .text "sqlite_autoindex_3")], [("table", .text "t"), ("index", .text "et")]] := by
  have hr := manifold.run_value true
  obtain ⟨names, tables, hn, hk⟩ := run_keepsIndexes hr
  obtain rfl : ["t", "s", "t", "u"] = names := Except.ok.inj hn
  have ht : tables = ["s", "t", "t"] := hk.tables_eq.trans (by decide +kernel)
  rw [ht] at hk
  exact ⟨_, hr, hk, by decide +kernel, by decide +kernel⟩

end Source

end CatalogDdl
