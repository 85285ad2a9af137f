import Mathlib.Data.Finset.Card
import CatalogDdl.Proofs.Run.Indexes
import CatalogDdl.Proofs.Table.Grouping

/-! # Counts in reports

The numbers of a summary, against the rows that a source reports for its table.

* `Summary.Counts`: a summary that counts column rows, ids of foreign keys, and index rows.
* `Table.counts_summary`: the summary of a table counts all of them but the indexes over expressions.
* `Source.counts_iff`: so a summary of a run counts all index rows exactly if none is over an expression.
-/

namespace CatalogDdl
set_option autoImplicit false

/-! ## Summaries -/

/-- A summary that counts rows of a table. The rows of a foreign key count once for all that share its id. -/
structure Summary.Counts (summary : Summary) (columns : List ColumnRow) (keys : List ForeignKeyRow)
    (indexes : List IndexRow) : Prop where
  columns : summary.columnCount = columns.length
  keys : summary.foreignKeyCount = (keys.map (·.id)).toFinset.card
  indexes : summary.indexCount = indexes.length

theorem ForeignKey.length_ofRows (rows : List ForeignKeyRow) :
    (ofRows rows).value.length = (rows.map (·.id)).toFinset.card := by
  have hl := congrArg List.length (map_some_ofRows rows)
  rw [List.length_map, List.length_map] at hl
  have he : (rows.map (·.id)).eraseDups.toFinset = (rows.map (·.id)).toFinset := by
    ext id
    rw [List.mem_toFinset, List.mem_toFinset, List.mem_eraseDups]
  rw [hl, ← he, List.toFinset_card_of_nodup (nodup_eraseDups _)]

/-- The rows of indexes over columns alone. -/
def IndexRow.plain (rows : List IndexRow) : List IndexRow :=
  rows.filter fun row => !row.columns.contains none

theorem IndexRow.length_plain_iff {rows : List IndexRow} :
    (plain rows).length = rows.length ↔ ∀ row ∈ rows, none ∉ row.columns := by
  rw [plain, List.length_filter_eq_length_iff]
  simp only [Bool.not_eq_true', List.contains_eq_mem, decide_eq_false_iff_not]

theorem Index.length_ofRows (table : String) (rows : List IndexRow) :
    (ofRows table rows).value.length = (IndexRow.plain rows).length := by
  rw [value_ofRows, IndexRow.plain]
  induction rows with
  | nil => rfl
  | cons row rows ih =>
    rw [List.filterMap_cons, List.filter_cons]
    cases h : ofRow? row with
    | none => rwa [if_neg (by simp [ofRow?_eq_none_iff.1 h])]
    | some index =>
      have hn : none ∉ row.columns := fun hm => by simp [ofRow?_eq_none_iff.2 hm] at h
      rw [if_pos (by simpa using hn), List.length_cons, List.length_cons, ih]

/-- The indexes are counted after those over expressions have been left out. -/
theorem Table.counts_summary (name : String) (columns : List ColumnRow) (keys : List ForeignKeyRow)
    (indexes : List IndexRow) (rows : Option Nat) :
    ((described name columns keys indexes).summary rows).Counts columns keys (IndexRow.plain indexes) where
  columns := by
    change ((orderedBy (·.ordinal) columns).map ColumnRow.column).length = _
    rw [List.length_map, length_orderedBy]
  keys := ForeignKey.length_ofRows keys
  indexes := Index.length_ofRows name indexes

theorem Summary.Counts.iff_plain {summary : Summary} {columns : List ColumnRow} {keys : List ForeignKeyRow}
    {indexes : List IndexRow} (h : summary.Counts columns keys (IndexRow.plain indexes)) :
    summary.Counts columns keys indexes ↔ ∀ row ∈ indexes, none ∉ row.columns := by
  rw [← IndexRow.length_plain_iff, ← h.indexes]
  exact ⟨fun hc => hc.indexes, fun hi => ⟨h.columns, h.keys, hi⟩⟩

/-! ## Runs -/

namespace Source
variable {source : Source} {countRows : Bool} {run : Run}

theorem creates_of_run (h : (source.run countRows).value = .ok run) :
    List.Forall₂ source.Creates run.report.tables run.document.tableBlocks := by
  obtain ⟨names, -, rfl⟩ := exists_names_of_run h
  rw [Run.tables_ofEntries, Run.tableBlocks_ofEntries]
  exact forall₂_creates countRows _

/-- **A report counts the indexes over columns**, so all that were reported only if none is over an expression. Each
table that the document creates has a summary. -/
theorem counts_iff (h : (source.run countRows).value = .ok run) :
    List.Forall₂ (fun summary block => block.table = summary.tableName ∧
        ∃ columns keys indexes, source.tableRows summary.tableName = .ok (columns, keys, indexes) ∧
          summary.Counts columns keys (IndexRow.plain indexes) ∧
          (summary.Counts columns keys indexes ↔ ∀ row ∈ indexes, none ∉ row.columns))
      run.report.tables run.document.tableBlocks := by
  refine (creates_of_run h).imp ?_
  rintro summary _ ⟨table, rows, hr, hs, rfl⟩
  obtain ⟨columns, keys, indexes, ha, -, rfl⟩ := readTable_eq_ok_iff.1 hr
  have hc := Table.counts_summary summary.tableName columns keys indexes rows
  rw [← hs] at hc
  exact ⟨rfl, columns, keys, indexes, tableRows_eq_ok_iff.2 ha, hc, hc.iff_plain⟩

/-- A source with two tables of three columns and two foreign keys, one of them composite. Each has the index of a
unique constraint, and the table `u` has one over an expression besides. -/
def tallied : Source where
  databaseName := "db"
  tableNames := .ok ["u", "t"]
  columns := fun _ => .ok [⟨2, "c", "INT", false, none, 0⟩, ⟨0, "a", "INT", true, none, 2⟩, ⟨1, "b", "INT", true, none, 1⟩]
  foreignKeys := fun _ => .ok [⟨7, 1, "p", "b", some "y", none, none⟩, ⟨2, 0, "p", "a", none, none, none⟩,
    ⟨7, 0, "p", "a", some "x", none, none⟩]
  indexes := fun name => .ok (⟨"sqlite_autoindex_1", true, some .primaryKey, [some "b", some "a"]⟩ ::
    if name = "u" then [⟨"e", false, some .createIndex, [some "a", none]⟩] else [])
  rowCount := fun _ => .ok 0

theorem counts_iff_tallied :
    ∃ run, (tallied.run true).value = .ok run ∧
      run.report.tables = [⟨"t", 3, 2, 1, some 0⟩, ⟨"u", 3, 2, 1, some 0⟩] ∧
      ∃ columns keys indexes, tallied.tableRows "t" = .ok (columns, keys, indexes) ∧
        (⟨"t", 3, 2, 1, some 0⟩ : Summary).Counts columns keys indexes := by
  have hr := tallied.run_value true
  obtain ⟨run, hv⟩ : ∃ run, (tallied.run true).value = .ok run := ⟨_, hr⟩
  have ht : run.report.tables = [⟨"t", 3, 2, 1, some 0⟩, ⟨"u", 3, 2, 1, some 0⟩] := by
    obtain rfl := Except.ok.inj (hr.symm.trans hv)
    decide +kernel
  have hc := counts_iff hv
  rw [ht, List.forall₂_cons_left_iff] at hc
  obtain ⟨_, _, ⟨-, columns, keys, indexes, ha, -, hi⟩, -⟩ := hc
  refine ⟨run, hv, ht, columns, keys, indexes, ha, hi.2 ?_⟩
  obtain ⟨-, -, hx⟩ := tableRows_eq_ok_iff.1 ha
  obtain rfl := Except.ok.inj hx
  decide

/-- A database with an index over an expression. -/
def computed : Source :=
  Database.source (.ofChanges [
    .createTable ⟨"t", [⟨"a", "INTEGER", false, false, false, false, none, none, none⟩], none, [], [], false⟩,
    .createIndex ⟨"i", "t", false, [.expression "a + 1"], none⟩]) "test.db"

/-- **An index over an expression is reported and not counted.** -/
theorem not_counts_computed :
    ∃ run columns keys indexes, (computed.run false).value = .ok run ∧ run.report.tables = [⟨"t", 1, 0, 0, none⟩] ∧
      computed.tableRows "t" = .ok (columns, keys, indexes) ∧ indexes.length = 1 ∧
      ¬ (⟨"t", 1, 0, 0, none⟩ : Summary).Counts columns keys indexes := by
  have hr := computed.run_value false
  have ha : computed.tableRows "t" = .ok ([⟨0, "a", "INTEGER", false, none, 0⟩], [],
      [⟨"i", false, some .createIndex, [none]⟩]) := toOption_eq_some_iff.1 (by decide +kernel)
  exact ⟨_, _, _, _, hr, by decide +kernel, ha, rfl, fun hc => nomatch hc.indexes⟩

end Source

end CatalogDdl
