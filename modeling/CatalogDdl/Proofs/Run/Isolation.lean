import CatalogDdl.Proofs.Run.Entries

/-! # Tables in isolation

What a source says about one table leaves no trace in what a run says about the others.

* `Source.AgreeExcept`, `Run.AgreeExcept`: sources, and runs, that differ in one table at most.
* `Run.Loses`: runs of which the second skips a table that the first one creates.
* `Source.run_agreeExcept`: sources that differ in one table have runs that differ in this table only.
-/

namespace CatalogDdl
set_option autoImplicit false

/-- Sources that answer every question in the same way, except those about the table of a name. -/
structure Source.AgreeExcept (name : String) (source other : Source) : Prop where
  databaseName : source.databaseName = other.databaseName
  tableNames : source.tableNames = other.tableNames
  columns : ∀ table, table ≠ name → source.columns table = other.columns table
  foreignKeys : ∀ table, table ≠ name → source.foreignKeys table = other.foreignKeys table
  indexes : ∀ table, table ≠ name → source.indexes table = other.indexes table
  rowCount : ∀ table, table ≠ name → source.rowCount table = other.rowCount table

namespace Run

/-- Runs that say the same, in the same order, about all tables except that of a name. -/
structure AgreeExcept (name : String) (run other : Run) : Prop where
  database : run.report.database = other.report.database
  totalTables : run.report.totalTables = other.report.totalTables
  tableBlocks : run.document.tableBlocks.filter (·.table != name) =
    other.document.tableBlocks.filter (·.table != name)
  indexBlocks : run.document.indexBlocks.filter (·.table != name) =
    other.document.indexBlocks.filter (·.table != name)
  tables : run.report.tables.filter (·.tableName != name) = other.report.tables.filter (·.tableName != name)
  skipped : run.report.skipped.filter (·.tableName != name) = other.report.skipped.filter (·.tableName != name)

/-- Runs of which the second says of a table only that it is skipped, as often as the first one creates it. -/
structure Loses (name : String) (run other : Run) : Prop where
  blocks : other.document.blocks = run.document.blocks.filter (·.table != name)
  tables : other.report.tables = run.report.tables.filter (·.tableName != name)
  skipped : run.report.skipped = other.report.skipped.filter (·.tableName != name)
  moved : (other.report.skipped.map (·.tableName)).count name = (run.report.tables.map (·.tableName)).count name

end Run

/-! ## Entries -/

namespace Entry

/-- Whether the items that a run collects from an entry bear the name of the table of the entry. -/
def IsPart {α : Type} (part : Entry → List α) (key : α → String) : Prop :=
  ∀ entry, ∀ item ∈ part entry, key item = entry.name

section
variable {α : Type} {part : Entry → List α} {key : α → String}

/-- What is left of the items without those of a table comes from the entries of the other tables. -/
theorem IsPart.filter_flatMap (h : IsPart part key) (name : String) (entries : List Entry) :
    (entries.flatMap part).filter (key · != name) = (entries.filter (·.name != name)).flatMap part := by
  induction entries with
  | nil => rfl
  | cons entry entries ih =>
    rw [List.flatMap_cons, List.filter_append, ih, List.filter_cons]
    split
    · next hn =>
      have e : (part entry).filter (key · != name) = part entry :=
        List.filter_eq_self.2 fun item hi => by rw [h entry item hi, hn]
      rw [e, List.flatMap_cons]
    · next hn =>
      have e : (part entry).filter (key · != name) = [] :=
        List.filter_eq_nil_iff.2 fun item hi => by rw [h entry item hi]; exact hn
      rw [e, List.nil_append]

theorem flatMap_filter {name : String} {entries : List Entry}
    (h : ∀ entry ∈ entries, entry.name = name → part entry = []) :
    (entries.filter (·.name != name)).flatMap part = entries.flatMap part := by
  induction entries with
  | nil => rfl
  | cons entry entries ih =>
    rw [List.forall_mem_cons] at h
    rw [List.filter_cons, List.flatMap_cons, ← ih h.2]
    split
    · rw [List.flatMap_cons]
    · next hn =>
      rw [h.1 (by simpa using hn), List.nil_append]

end

theorem isPart_tableBlocks : IsPart tableBlocks Block.table :=
  fun _ _ => table_of_mem_tableBlocks

theorem isPart_indexBlocks : IsPart indexBlocks Block.table :=
  fun _ _ => table_of_mem_indexBlocks

theorem isPart_summary? : IsPart (fun entry => entry.summary?.toList) Summary.tableName := by
  intro entry item hi
  cases entry with
  | skipped name cause => contradiction
  | read table rows =>
    obtain rfl := List.mem_singleton.1 hi
    rfl

theorem isPart_skipped? : IsPart (fun entry => entry.skipped?.toList) Skipped.tableName := by
  intro entry item hi
  cases entry with
  | read table rows => contradiction
  | skipped name cause =>
    obtain rfl := List.mem_singleton.1 hi
    rfl

end Entry

theorem count_map_filter {α : Type} (key : α → String) (name : String) (items : List α) :
    ((items.filter (key · != name)).map key).count name = 0 := by
  refine List.count_eq_zero.2 fun hm => ?_
  obtain ⟨item, hi, e⟩ := List.mem_map.1 hm
  exact absurd e (by simpa using (List.mem_filter.1 hi).2)

namespace Run
variable {name database otherDatabase : String} {listed otherListed : Nat} {entries others : List Entry}

theorem loses_ofEntries (hf : entries.filter (·.name != name) = others.filter (·.name != name))
    (hn : entries.map Entry.name = others.map Entry.name)
    (hr : ∀ entry ∈ entries, entry.name = name → ∃ table rows, entry = .read table rows)
    (hs : ∀ entry ∈ others, entry.name = name → ∃ cause, entry = .skipped name cause) :
    (ofEntries database listed entries).Loses name (ofEntries otherDatabase otherListed others) := by
  have hskip : ∀ {α : Type} (part : Entry → List α), (∀ cause, part (.skipped name cause) = []) →
      others.flatMap part = (entries.filter (·.name != name)).flatMap part := by
    intro α part hp
    rw [hf, Entry.flatMap_filter fun entry he e => ?_]
    obtain ⟨cause, rfl⟩ := hs entry he e
    exact hp cause
  have ht : (ofEntries otherDatabase otherListed others).report.tables =
      (ofEntries database listed entries).report.tables.filter (·.tableName != name) := by
    simp only [tables_ofEntries, List.filterMap_eq_flatMap_toList, Entry.isPart_summary?.filter_flatMap]
    exact hskip _ fun _ => rfl
  have hk : (ofEntries database listed entries).report.skipped =
      (ofEntries otherDatabase otherListed others).report.skipped.filter (·.tableName != name) := by
    simp only [skipped_ofEntries, List.filterMap_eq_flatMap_toList, Entry.isPart_skipped?.filter_flatMap]
    rw [← hf, Entry.flatMap_filter fun entry he e => ?_]
    obtain ⟨table, rows, rfl⟩ := hr entry he e
    rfl
  refine ⟨?_, ht, hk, ?_⟩
  · rw [document_ofEntries, document_ofEntries, List.filter_append, Entry.isPart_tableBlocks.filter_flatMap,
      Entry.isPart_indexBlocks.filter_flatMap, hskip _ fun _ => rfl, hskip _ fun _ => rfl]
  · have he := (Entry.tables_append_skipped_perm entries).count_eq name
    have ho := (Entry.tables_append_skipped_perm others).count_eq name
    rw [← tables_ofEntries database listed, ← skipped_ofEntries database listed, hk, List.count_append,
      count_map_filter, hn] at he
    rw [← tables_ofEntries otherDatabase otherListed, ← skipped_ofEntries otherDatabase otherListed, ht,
      List.count_append, count_map_filter] at ho
    omega

end Run

namespace Source
variable {name : String} {source other : Source}

theorem AgreeExcept.outcome (h : AgreeExcept name source other) (countRows : Bool) {table : String}
    (hn : table ≠ name) : source.outcome countRows table = other.outcome countRows table := by
  have hr := readTable_congr (h.columns table hn) (h.foreignKeys table hn) (h.indexes table hn)
  have hc : source.rowsOf countRows table = other.rowsOf countRows table := by
    rw [rowsOf, rowsOf, h.rowCount table hn]
  rw [Source.outcome, Source.outcome, hr, hc]

theorem AgreeExcept.filter_entries (h : AgreeExcept name source other) (countRows : Bool) (names : List String) :
    (names.map (source.outcome countRows)).filter (·.name != name) =
      (names.map (other.outcome countRows)).filter (·.name != name) := by
  have hf : ∀ any : Source, (names.map (any.outcome countRows)).filter (·.name != name) =
      (names.filter (· != name)).map (any.outcome countRows) := by
    intro any
    rw [List.filter_map]
    congr 2
    funext table
    rw [Function.comp_apply, any.name_outcome]
  rw [hf, hf]
  refine List.map_congr_left fun table ht => h.outcome countRows ?_
  simpa using (List.mem_filter.1 ht).2

theorem eq_skipped_of_skips {cause : Failure} (h : source.Skips name cause) (countRows : Bool) (names : List String) :
    ∀ entry ∈ names.map (source.outcome countRows), entry.name = name → ∃ cause, entry = .skipped name cause := by
  rintro _ hm rfl
  obtain ⟨table, -, rfl⟩ := List.mem_map.1 hm
  rw [name_outcome] at h ⊢
  exact exists_outcome_of_skips countRows h

theorem eq_read_of_not_skips (h : ∀ cause, ¬ source.Skips name cause) (countRows : Bool) (names : List String) :
    ∀ entry ∈ names.map (source.outcome countRows), entry.name = name → ∃ table rows, entry = .read table rows := by
  rintro _ hm rfl
  obtain ⟨table, -, rfl⟩ := List.mem_map.1 hm
  rw [name_outcome] at h
  cases ho : source.outcome countRows table with
  | read table rows => exact ⟨table, rows, rfl⟩
  | skipped other cause => exact absurd (skips_of_outcome ho).2 (h cause)

/-! ## Runs -/

/-- **What a source says about a table concerns that table only.** If all that changes is that the table cannot
be read any more, it moves from the created tables to the skipped ones. -/
theorem run_agreeExcept (h : AgreeExcept name source other) {names : List String}
    (hn : source.tableNames = .ok names) (countRows : Bool) :
    ∃ run change, (source.run countRows).value = .ok run ∧ (other.run countRows).value = .ok change ∧
      run.AgreeExcept name change ∧
      ((∀ cause, ¬ source.Skips name cause) → (∃ cause, other.Skips name cause) → run.Loses name change) := by
  have hr := source.run_value countRows
  have hc := other.run_value countRows
  rw [hn] at hr
  rw [← h.tableNames, hn] at hc
  have hf := h.filter_entries countRows (orderedBy id names)
  refine ⟨_, _, hr, hc, ⟨h.databaseName, rfl, ?_, ?_, ?_, ?_⟩, fun hs ho => ?_⟩
  · simp only [Run.tableBlocks_ofEntries, Entry.isPart_tableBlocks.filter_flatMap, hf]
  · simp only [Run.indexBlocks_ofEntries, Entry.isPart_indexBlocks.filter_flatMap, hf]
  · simp only [Run.tables_ofEntries, List.filterMap_eq_flatMap_toList, Entry.isPart_summary?.filter_flatMap, hf]
  · simp only [Run.skipped_ofEntries, List.filterMap_eq_flatMap_toList, Entry.isPart_skipped?.filter_flatMap, hf]
  · obtain ⟨cause, ho⟩ := ho
    refine Run.loses_ofEntries hf ?_ (eq_read_of_not_skips hs countRows _) (eq_skipped_of_skips ho countRows _)
    rw [map_name_outcome, map_name_outcome]

/-- A source that lists a table twice. -/
def twiceListed : Source where
  databaseName := "db"
  tableNames := .ok ["b", "a", "b"]
  columns := fun _ => .ok [⟨0, "x", "TEXT", false, none, 0⟩]
  foreignKeys := fun _ => .ok []
  indexes := fun name => .ok [⟨name, false, none, [some "x"]⟩]
  rowCount := fun _ => .ok 0

/-- The same source where the columns of that table cannot be read. -/
def twiceDenied : Source :=
  { twiceListed with columns := fun name => if name = "b" then .error (.io "denied") else twiceListed.columns name }

theorem agreeExcept_twiceDenied : AgreeExcept "b" twiceListed twiceDenied where
  databaseName := rfl
  tableNames := rfl
  columns := fun _ hn => (if_neg hn).symm
  foreignKeys := fun _ _ => rfl
  indexes := fun _ _ => rfl
  rowCount := fun _ _ => rfl

theorem run_agreeExcept_twiceDenied :
    AgreeExcept "b" twiceListed twiceDenied ∧ twiceListed.tableNames = .ok ["b", "a", "b"] ∧
      (∀ cause, ¬ twiceListed.Skips "b" cause) ∧ (∃ cause, twiceDenied.Skips "b" cause) ∧
      ∃ run change, (twiceListed.run false).value = .ok run ∧ (twiceDenied.run false).value = .ok change ∧
        run.AgreeExcept "b" change ∧ run.Loses "b" change := by
  have hs : ∀ cause, ¬ twiceListed.Skips "b" cause := not_skips_of_readTable rfl
  have ho : ∃ cause, twiceDenied.Skips "b" cause := ⟨_, .columns rfl⟩
  obtain ⟨run, change, hr, hc, ha, hl⟩ := run_agreeExcept agreeExcept_twiceDenied rfl false
  exact ⟨agreeExcept_twiceDenied, rfl, hs, ho, run, change, hr, hc, ha, hl hs ho⟩

end Source

end CatalogDdl
