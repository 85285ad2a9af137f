import CatalogDdl.Proofs.Table.Reading
import CatalogDdl.Run.Basic

/-! # The entries of a run

A run in terms of its source alone.

* `Entry.name`: the name of the table that an entry is about; its blocks are about that table.
* `Source.outcome`: what becomes of one table, whatever becomes of the others.
* `entries_value`, `run_value`: a run has one entry for each listed name and fails only where listing fails.
* `events_run`: a run reports what its entries report, one after the other.
* `Source.readableTables`: the tables that can be read; every table of a run is one of them.
-/

namespace CatalogDdl
set_option autoImplicit false

/-! ## Blocks -/

namespace Entry

def name : Entry → String
  | read table _ => table.name
  | skipped name _ => name

theorem table_of_mem_tableBlocks {entry : Entry} {block : Block} (h : block ∈ entry.tableBlocks) :
    block.table = entry.name := by
  cases entry with
  | skipped name cause => contradiction
  | read table rows =>
    obtain rfl := List.mem_singleton.1 h
    rfl

theorem table_of_mem_indexBlocks {entry : Entry} {block : Block} (h : block ∈ entry.indexBlocks) :
    block.table = entry.name := by
  cases entry with
  | skipped name cause => contradiction
  | read table rows =>
    obtain ⟨index, -, rfl⟩ := List.mem_map.1 h
    rfl

theorem isTable_of_mem_tableBlocks {entry : Entry} {block : Block} (h : block ∈ entry.tableBlocks) :
    block.isTable = true := by
  cases entry with
  | skipped name cause => contradiction
  | read table rows =>
    obtain rfl := List.mem_singleton.1 h
    rfl

theorem isTable_of_mem_indexBlocks {entry : Entry} {block : Block} (h : block ∈ entry.indexBlocks) :
    block.isTable = false := by
  cases entry with
  | skipped name cause => contradiction
  | read table rows =>
    obtain ⟨index, -, rfl⟩ := List.mem_map.1 h
    rfl

theorem exists_mem_tableBlocks {entry : Entry} {block : Block}
    (h : block ∈ entry.tableBlocks ∨ block ∈ entry.indexBlocks) :
    ∃ other ∈ entry.tableBlocks, other.table = block.table := by
  cases entry with
  | skipped name cause =>
    rcases h with h | h <;> contradiction
  | read table rows =>
    refine ⟨_, List.mem_singleton_self _, ?_⟩
    rcases h with h | h
    · rw [List.mem_singleton.1 h]
    · obtain ⟨index, -, rfl⟩ := List.mem_map.1 h
      rfl

/-! ## Summaries -/

theorem tables_append_skipped_perm (entries : List Entry) :
    ((entries.filterMap summary?).map (·.tableName) ++ (entries.filterMap skipped?).map (·.tableName)).Perm
      (entries.map name) := by
  induction entries with
  | nil => exact .refl _
  | cons entry entries ih =>
    cases entry with
    | read table rows => exact ih.cons table.name
    | skipped name cause => exact List.perm_middle.trans (ih.cons name)

theorem tables_sublist (entries : List Entry) :
    ((entries.filterMap summary?).map (·.tableName)).Sublist (entries.map name) := by
  induction entries with
  | nil => exact .refl _
  | cons entry entries ih =>
    cases entry with
    | read table rows => exact ih.cons_cons table.name
    | skipped name cause => exact ih.cons name

theorem skipped_sublist (entries : List Entry) :
    ((entries.filterMap skipped?).map (·.tableName)).Sublist (entries.map name) := by
  induction entries with
  | nil => exact .refl _
  | cons entry entries ih =>
    cases entry with
    | read table rows => exact ih.cons table.name
    | skipped name cause => exact ih.cons_cons name

end Entry

/-! ## Runs of entries -/

namespace Run
variable (database : String) (listed : Nat) (entries : List Entry)

theorem document_ofEntries :
    (ofEntries database listed entries).document.blocks =
      entries.flatMap Entry.tableBlocks ++ entries.flatMap Entry.indexBlocks := rfl

theorem tables_ofEntries :
    (ofEntries database listed entries).report.tables = entries.filterMap Entry.summary? := rfl

theorem skipped_ofEntries :
    (ofEntries database listed entries).report.skipped = entries.filterMap Entry.skipped? := rfl

theorem totalTables_ofEntries : (ofEntries database listed entries).report.totalTables = listed := rfl

theorem tableBlocks_ofEntries :
    (ofEntries database listed entries).document.tableBlocks = entries.flatMap Entry.tableBlocks := by
  have ht : (entries.flatMap Entry.tableBlocks).filter (·.isTable) = entries.flatMap Entry.tableBlocks := by
    rw [List.filter_eq_self]
    intro block hb
    obtain ⟨entry, -, hb⟩ := List.mem_flatMap.1 hb
    exact Entry.isTable_of_mem_tableBlocks hb
  have hi : (entries.flatMap Entry.indexBlocks).filter (·.isTable) = [] := by
    rw [List.filter_eq_nil_iff]
    intro block hb
    obtain ⟨entry, -, hb⟩ := List.mem_flatMap.1 hb
    rw [Entry.isTable_of_mem_indexBlocks hb]
    decide
  rw [Document.tableBlocks, ofEntries, List.filter_append, ht, hi, List.append_nil]

theorem indexBlocks_ofEntries :
    (ofEntries database listed entries).document.indexBlocks = entries.flatMap Entry.indexBlocks := by
  have ht : (entries.flatMap Entry.tableBlocks).filter (!·.isTable) = [] := by
    rw [List.filter_eq_nil_iff]
    intro block hb
    obtain ⟨entry, -, hb⟩ := List.mem_flatMap.1 hb
    rw [Entry.isTable_of_mem_tableBlocks hb]
    decide
  have hi : (entries.flatMap Entry.indexBlocks).filter (!·.isTable) = entries.flatMap Entry.indexBlocks := by
    rw [List.filter_eq_self]
    intro block hb
    obtain ⟨entry, -, hb⟩ := List.mem_flatMap.1 hb
    rw [Entry.isTable_of_mem_indexBlocks hb]
    rfl
  rw [Document.indexBlocks, ofEntries, List.filter_append, ht, hi, List.nil_append]

theorem blocks_ofEntries :
    (ofEntries database listed entries).document.blocks =
      (ofEntries database listed entries).document.tableBlocks ++
        (ofEntries database listed entries).document.indexBlocks := by
  rw [tableBlocks_ofEntries, indexBlocks_ofEntries, ofEntries]

theorem document_congr {f g : String → Entry} (ht : ∀ name, (f name).tableBlocks = (g name).tableBlocks)
    (hi : ∀ name, (f name).indexBlocks = (g name).indexBlocks) (names : List String) :
    (ofEntries database listed (names.map f)).document = (ofEntries database listed (names.map g)).document := by
  refine congrArg Document.mk ?_
  simp only [List.flatMap_map]
  congr 1
  · exact List.flatMap_congr fun name _ => ht name
  · exact List.flatMap_congr fun name _ => hi name

/-- Every table that a block is about is created in the same document. -/
theorem exists_tableBlock {block : Block} (h : block ∈ (ofEntries database listed entries).document.blocks) :
    ∃ other ∈ (ofEntries database listed entries).document.tableBlocks, other.table = block.table := by
  rw [tableBlocks_ofEntries]
  rw [ofEntries, List.mem_append, List.mem_flatMap, List.mem_flatMap] at h
  rcases h with ⟨entry, he, hb⟩ | ⟨entry, he, hb⟩
  · obtain ⟨other, ho, e⟩ := Entry.exists_mem_tableBlocks (.inl hb)
    exact ⟨other, List.mem_flatMap.2 ⟨entry, he, ho⟩, e⟩
  · obtain ⟨other, ho, e⟩ := Entry.exists_mem_tableBlocks (.inr hb)
    exact ⟨other, List.mem_flatMap.2 ⟨entry, he, ho⟩, e⟩

end Run

namespace Source
variable (source : Source) (countRows : Bool)

/-! ## Single tables -/

/-- What becomes of the table of a name. -/
def outcome (name : String) : Entry :=
  match (source.readTable name).value with
  | .ok table => .read table (source.rowsOf countRows name).value
  | .error cause => .skipped name cause

/-- Whatever is wrong with the rows of a table concerns that table only. -/
theorem isTableLocal_of_ofRows {name : String} {columns : List ColumnRow} {keys : List ForeignKeyRow}
    {indexes : List IndexRow} {cause : Failure}
    (h : (Table.ofRows name columns keys indexes).value = .error cause) :
    cause.isTableLocal = true := by
  rw [Table.ofRows] at h
  split at h
  · obtain rfl := Except.error.inj h
    rfl
  · rw [Traced.value_bind] at h
    split at h
    · obtain rfl := Except.error.inj h
      rfl
    · rw [Traced.value_bind, Traced.value_pure] at h
      contradiction

theorem isTableLocal_of_readTable {name : String} {cause : Failure}
    (h : (source.readTable name).value = .error cause) : cause.isTableLocal = true := by
  rw [readTable] at h
  split at h
  · obtain rfl := Except.error.inj h
    rfl
  · exact isTableLocal_of_ofRows h

theorem name_outcome (name : String) : (source.outcome countRows name).name = name := by
  rw [outcome]
  split
  · next table h =>
    obtain ⟨_, _, _, -, -, rfl⟩ := readTable_eq_ok_iff.1 h
    rfl
  · rfl

theorem map_name_outcome (names : List String) :
    (names.map (source.outcome countRows)).map Entry.name = names := by
  rw [List.map_map]
  exact (List.map_congr_left fun name _ => source.name_outcome countRows name).trans (List.map_id names)

variable {source countRows} in
theorem readTable_of_outcome {name : String} {table : Table} {rows : Option Nat}
    (h : source.outcome countRows name = .read table rows) :
    table.name = name ∧ (source.readTable name).value = .ok table := by
  have hn := source.name_outcome countRows name
  rw [h] at hn
  refine ⟨hn, ?_⟩
  rw [outcome] at h
  split at h
  · next found hr =>
    obtain ⟨rfl, -⟩ := Entry.read.inj h
    exact hr
  · contradiction

variable {source countRows} in
theorem skips_of_outcome {name other : String} {cause : Failure}
    (h : source.outcome countRows name = .skipped other cause) : other = name ∧ source.Skips name cause := by
  rw [outcome] at h
  split at h
  · contradiction
  · next found hr =>
    obtain ⟨rfl, rfl⟩ := Entry.skipped.inj h
    exact ⟨rfl, skips_of_readTable hr⟩

variable {source} in
theorem exists_outcome_of_skips {name : String} {cause : Failure} (h : source.Skips name cause) :
    ∃ other, source.outcome countRows name = .skipped name other := by
  cases ho : source.outcome countRows name with
  | read table rows => exact absurd h (not_skips_of_readTable (readTable_of_outcome ho).2 cause)
  | skipped other cause =>
    obtain ⟨rfl, -⟩ := skips_of_outcome ho
    exact ⟨cause, rfl⟩

/-- Reading a table never ends the run. -/
theorem entry_value (name : String) :
    (source.entry countRows name).value = .ok (source.outcome countRows name) := by
  rw [entry, Traced.value_bind, outcome]
  cases h : (source.readTable name).value with
  | ok table => rfl
  | error cause =>
    simp only [if_pos (source.isTableLocal_of_readTable h)]
    rfl

variable {source countRows} in
theorem events_entry_ok {name : String} {table : Table} (h : (source.readTable name).value = .ok table) :
    (source.entry countRows name).events = (source.readTable name).events ++
      ((source.rowsOf countRows name).events ++ [.tableConverted table.name table.columns.length
        table.foreignKeys.length table.indexes.length (source.rowsOf countRows name).value]) := by
  rw [entry, Traced.events_bind, h]
  rfl

variable {source countRows} in
theorem events_entry_error {name : String} {cause : Failure} (h : (source.readTable name).value = .error cause) :
    (source.entry countRows name).events = (source.readTable name).events ++ [.tableSkipped name cause] := by
  rw [entry, Traced.events_bind, h]
  simp only [if_pos (source.isTableLocal_of_readTable h)]
  rfl

/-! ## All tables -/

theorem entries_value (names : List String) :
    (source.entries countRows names).value = .ok (names.map (source.outcome countRows)) := by
  induction names with
  | nil => rfl
  | cons name names ih =>
    rw [entries, Traced.value_bind, entry_value]
    change ((source.entries countRows names).value.map _) = _
    rw [ih]
    rfl

theorem events_entries (names : List String) :
    (source.entries countRows names).events = names.flatMap fun name => (source.entry countRows name).events := by
  induction names with
  | nil => rfl
  | cons name names ih =>
    rw [entries, Traced.events_bind, entry_value, List.flatMap_cons, ← ih]
    exact congrArg _ (List.append_nil _)

theorem events_run {names : List String} (h : source.tableNames = .ok names) :
    (source.run countRows).events = (orderedBy id names).flatMap fun name => (source.entry countRows name).events := by
  rw [run, h, ← events_entries]
  exact List.append_nil _

/-- **A run fails only where the tables cannot be listed.** Otherwise it has one entry for each listed name, in
the order of the names. -/
theorem run_value :
    (source.run countRows).value = source.tableNames.map fun names =>
      Run.ofEntries source.databaseName names.length ((orderedBy id names).map (source.outcome countRows)) := by
  rw [run]
  cases source.tableNames with
  | error cause => rfl
  | ok names =>
    change (source.entries countRows (orderedBy id names)).value.map _ = _
    rw [entries_value]
    rfl

/-- The tables of a source that can be read, as often as they are listed. -/
def readableTables : List Table :=
  match source.tableNames with
  | .ok names => names.filterMap fun name => (source.readTable name).value.toOption
  | .error _ => []

variable {source countRows}

theorem exists_names_of_run {run : Run} (h : (source.run countRows).value = .ok run) :
    ∃ names, source.tableNames = .ok names ∧
      run = Run.ofEntries source.databaseName names.length
        ((orderedBy id names).map (source.outcome countRows)) := by
  rw [run_value] at h
  cases hn : source.tableNames with
  | error cause =>
    rw [hn] at h
    contradiction
  | ok names =>
    rw [hn] at h
    exact ⟨names, rfl, (Except.ok.inj h).symm⟩

/-- Every block of a run creates one of the tables that can be read, or one of its indexes. -/
theorem exists_table_of_mem_blocks {run : Run} (h : (source.run countRows).value = .ok run) {block : Block}
    (hb : block ∈ run.document.blocks) :
    ∃ table ∈ source.readableTables,
      block = .createTable table.name table.createStatement ∨
        ∃ index ∈ table.ownIndexes,
          block = .createIndex table.name index.name (index.createStatement table.name) := by
  obtain ⟨names, hn, rfl⟩ := exists_names_of_run h
  have hr : ∀ name ∈ orderedBy id names, ∀ table rows, source.outcome countRows name = .read table rows →
      table ∈ source.readableTables := by
    intro name hm table rows ho
    rw [readableTables, hn]
    refine List.mem_filterMap.2 ⟨name, mem_orderedBy.1 hm, ?_⟩
    rw [outcome] at ho
    cases ht : (source.readTable name).value with
    | error cause =>
      rw [ht] at ho
      contradiction
    | ok found =>
      rw [ht] at ho
      obtain ⟨rfl, -⟩ := Entry.read.inj ho
      rfl
  simp only [Run.ofEntries, List.mem_append, List.mem_flatMap, List.mem_map] at hb
  rcases hb with ⟨_, ⟨name, hm, rfl⟩, hb⟩ | ⟨_, ⟨name, hm, rfl⟩, hb⟩
  · cases ho : source.outcome countRows name with
    | skipped name cause =>
      rw [ho] at hb
      contradiction
    | read table rows =>
      rw [ho] at hb
      exact ⟨table, hr name hm table rows ho, .inl (List.mem_singleton.1 hb)⟩
  · cases ho : source.outcome countRows name with
    | skipped name cause =>
      rw [ho] at hb
      contradiction
    | read table rows =>
      rw [ho] at hb
      obtain ⟨index, hi, e⟩ := List.mem_map.1 hb
      exact ⟨table, hr name hm table rows ho, .inr ⟨index, hi, e.symm⟩⟩

/-- A table of the report is created by its own statement, and by no other. -/
theorem createTable_mem_blocks_iff {run : Run} (h : (source.run countRows).value = .ok run) {name : String}
    (hm : name ∈ run.report.tables.map (·.tableName)) :
    ∃ table, (source.readTable name).value = .ok table ∧
      ∀ sql, .createTable name sql ∈ run.document.blocks ↔ sql = table.createStatement := by
  obtain ⟨names, -, rfl⟩ := exists_names_of_run h
  obtain ⟨summary, hs, rfl⟩ := List.mem_map.1 hm
  obtain ⟨_, he, e⟩ := List.mem_filterMap.1 hs
  obtain ⟨name, hn, rfl⟩ := List.mem_map.1 he
  cases ho : source.outcome countRows name with
  | skipped other cause =>
    rw [ho] at e
    contradiction
  | read table rows =>
    obtain ⟨rfl, hr⟩ := readTable_of_outcome ho
    rw [ho] at e
    obtain rfl := Option.some.inj e
    refine ⟨table, hr, fun sql => ?_⟩
    rw [Run.document_ofEntries, List.mem_append, List.mem_flatMap, List.mem_flatMap]
    constructor
    · rintro (⟨_, ha, hb⟩ | ⟨_, -, hb⟩)
      · obtain ⟨other, -, rfl⟩ := List.mem_map.1 ha
        have hn := Entry.table_of_mem_tableBlocks hb
        rw [name_outcome] at hn
        obtain rfl : table.name = other := hn
        rw [ho] at hb
        exact (Block.createTable.inj (List.mem_singleton.1 hb)).2
      · exact Bool.noConfusion (Entry.isTable_of_mem_indexBlocks hb)
    · rintro rfl
      exact .inl ⟨_, he, ho ▸ List.mem_singleton_self _⟩

end Source

end CatalogDdl
