import CatalogDdl.Proofs.Run.Entries
import CatalogDdl.Proofs.Table.Events
import CatalogDdl.Proofs.Text.ByteOrder

/-! # What a run accounts for

Nothing that a source lists is lost, and no listed table ends the run.

* `Verdict`: what an event says about a listed table, `Event.verdict?`; `Verdict.line` is what stands in the log.
* `Source.verdicts_run`: the verdicts among the events of a run, one for each listed name.
* `Contradicts`, `Source.SkipsSaying`: what the rows of a table are refused for, and what any table is skipped for, in
  the words in which it is reported.
* `Source.Accounts`: how report, document and events of a run account for the listed names.
-/

namespace CatalogDdl
set_option autoImplicit false

/-! ## Verdicts -/

/-- What a run says about one listed table. -/
inductive Verdict
  | converted (summary : Summary)
  | skipped (entry : Skipped)
deriving DecidableEq, Repr

namespace Verdict

def tableName : Verdict → String
  | converted summary => summary.tableName
  | skipped entry => entry.tableName

def summary? : Verdict → Option Summary
  | converted summary => some summary
  | skipped _ => none

def skipped? : Verdict → Option Skipped
  | converted _ => none
  | skipped entry => some entry

end Verdict

def Verdict.line : Verdict → LogLine
  | converted summary =>
    ⟨.info, "Translated table", [("table", .text summary.tableName), ("columns", .number summary.columnCount),
      ("foreign_keys", .number summary.foreignKeyCount), ("indexes", .number summary.indexCount),
      ("rows", .text (Event.rowsText summary.rowCount))]⟩
  | skipped entry =>
    ⟨.warning, "Skipping table", [("table", .text entry.tableName), ("reason", .text entry.reason)]⟩

/-- The lines that bring a verdict. -/
def LogLine.isVerdict (line : LogLine) : Bool :=
  line.message == "Translated table" || line.message == "Skipping table"

/-- The verdict that an event brings. The other events are about parts of a table, or about a whole run. -/
def Event.verdict? : Event → Option Verdict
  | tableConverted table columns foreignKeys indexes rows =>
    some (.converted ⟨table, columns, foreignKeys, indexes, rows⟩)
  | tableSkipped table cause => some (.skipped ⟨table, cause⟩)
  | _ => none

/-- The verdicts that events bring, in order. -/
def verdictsOf (events : List Event) : List Verdict :=
  events.filterMap Event.verdict?

theorem Event.verdict?_line (event : Event) :
    [event.line].filter LogLine.isVerdict = event.verdict?.toList.map Verdict.line := by
  cases event <;> rfl

/-- The log brings the verdicts of the events, and no others. -/
theorem lines_verdictsOf (events : List Event) :
    (events.map Event.line).filter LogLine.isVerdict = (verdictsOf events).map Verdict.line := by
  induction events with
  | nil => rfl
  | cons event events ih =>
    have hs : verdictsOf (event :: events) = event.verdict?.toList ++ verdictsOf events := by
      rw [verdictsOf, List.filterMap_cons]
      cases event.verdict? <;> rfl
    rw [List.map_cons, ← List.singleton_append, List.filter_append, event.verdict?_line, ih, hs, List.map_append]

def Entry.verdict : Entry → Verdict
  | read table rows => .converted (table.summary rows)
  | skipped name cause => .skipped ⟨name, cause⟩

namespace Entry

theorem tableNames_verdicts (entries : List Entry) :
    (entries.map verdict).map Verdict.tableName = entries.map name := by
  rw [List.map_map]
  exact List.map_congr_left fun entry _ => by cases entry <;> rfl

theorem summaries_verdicts (entries : List Entry) :
    (entries.map verdict).filterMap Verdict.summary? = entries.filterMap summary? := by
  rw [List.filterMap_map]
  exact List.filterMap_congr fun entry _ => by cases entry <;> rfl

theorem skipped_verdicts (entries : List Entry) :
    (entries.map verdict).filterMap Verdict.skipped? = entries.filterMap skipped? := by
  rw [List.filterMap_map]
  exact List.filterMap_congr fun entry _ => by cases entry <;> rfl

end Entry

/-! ## Events -/

namespace Source
variable (source : Source) (countRows : Bool)

theorem verdicts_readTable (name : String) :
    (source.readTable name).events.filterMap Event.verdict? = [] := by
  refine List.filterMap_eq_nil_iff.2 fun event he => ?_
  rcases event_cases he with ⟨action, rfl⟩ | ⟨index, rfl⟩ <;> rfl

theorem verdicts_rowsOf (name : String) :
    (source.rowsOf countRows name).events.filterMap Event.verdict? = [] := by
  rw [rowsOf]
  split
  · split <;> rfl
  · rfl

theorem verdicts_entry (name : String) :
    (source.entry countRows name).events.filterMap Event.verdict? = [(source.outcome countRows name).verdict] := by
  rw [outcome]
  cases h : (source.readTable name).value with
  | ok table =>
    rw [events_entry_ok h, List.filterMap_append, List.filterMap_append, verdicts_readTable, verdicts_rowsOf]
    rfl
  | error cause =>
    rw [events_entry_error h, List.filterMap_append, verdicts_readTable]
    rfl

theorem verdicts_run {names : List String} (h : source.tableNames = .ok names) :
    verdictsOf (source.run countRows).events =
      ((orderedBy id names).map (source.outcome countRows)).map Entry.verdict := by
  rw [verdictsOf, source.events_run countRows h, List.filterMap_flatMap, List.map_map, List.map_eq_flatMap]
  exact List.flatMap_congr fun name _ => source.verdicts_entry countRows name

end Source

/-! ## Reasons -/

/-- What contradicts that rows describe a table, with the words that say so. -/
inductive Contradicts (columns : List ColumnRow) (keys : List ForeignKeyRow) : String → Prop
  | noColumns (none : columns = []) : Contradicts columns keys "no columns were reported"
  | ordinal {row : ColumnRow} {place : Nat} (here : (orderedBy (·.ordinal) columns)[place]? = some row)
    (misplaced : row.ordinal ≠ place) :
    Contradicts columns keys s!"column `{row.name}` has ordinal {row.ordinal}, expected {place}"
  | unknownLocalColumn {key : ForeignKeyRow} (given : key ∈ keys)
    (unknown : key.localColumn ∉ columns.map (·.name)) :
    Contradicts columns keys s!"foreign key references unknown local column `{key.localColumn}`"

theorem Inconsistency.Holds.contradicts {columns : List ColumnRow} {keys : List ForeignKeyRow}
    {cause : Inconsistency} (h : cause.Holds columns keys) : Contradicts columns keys cause.message := by
  cases cause with
  | noColumns => exact .noColumns h
  | ordinal column found expected =>
    obtain ⟨row, hr, rfl, rfl, hn⟩ := h
    exact .ordinal hr hn
  | unknownLocalColumn column =>
    obtain ⟨⟨key, hk, rfl⟩, hn⟩ := h
    exact .unknownLocalColumn hk hn
  | reported text => exact h.elim

namespace Source

/-- What the table of a name is skipped for: the first question that fails, with its own text, or what is inconsistent
about the rows if all are answered. -/
inductive SkipsSaying (source : Source) (name : String) : String → Prop
  | columns {cause : Failure} (failed : source.columns name = .error cause) :
    SkipsSaying source name s!"Failed to read metadata for table `{name}`: {cause.message}"
  | foreignKeys {columns : List ColumnRow} {cause : Failure} (hasColumns : source.columns name = .ok columns)
    (failed : source.foreignKeys name = .error cause) :
    SkipsSaying source name s!"Failed to read metadata for table `{name}`: {cause.message}"
  | indexes {columns : List ColumnRow} {keys : List ForeignKeyRow} {cause : Failure}
    (hasColumns : source.columns name = .ok columns) (hasKeys : source.foreignKeys name = .ok keys)
    (failed : source.indexes name = .error cause) :
    SkipsSaying source name s!"Failed to read metadata for table `{name}`: {cause.message}"
  | rows {columns : List ColumnRow} {keys : List ForeignKeyRow} {indexes : List IndexRow} {text : String}
    (hasColumns : source.columns name = .ok columns) (hasKeys : source.foreignKeys name = .ok keys)
    (hasIndexes : source.indexes name = .ok indexes) (contradicts : Contradicts columns keys text) :
    SkipsSaying source name s!"Inconsistent metadata for table `{name}`: {text}"

theorem Skips.skipsSaying {source : Source} {name : String} {cause : Failure} (h : source.Skips name cause) :
    source.SkipsSaying name cause.message := by
  cases h with
  | columns failed => exact .columns failed
  | foreignKeys hasColumns failed => exact .foreignKeys hasColumns failed
  | indexes hasColumns hasKeys failed => exact .indexes hasColumns hasKeys failed
  | rows hasColumns hasKeys hasIndexes inconsistent holds =>
    exact .rows hasColumns hasKeys hasIndexes holds.contradicts

/-! ## Accounts -/

variable (source : Source) (countRows : Bool)

/-- Whether a block creates the table that is read for the name of a summary, and the summary is that table's. -/
def Creates (summary : Summary) (block : Block) : Prop :=
  ∃ table rows, (source.readTable summary.tableName).value = .ok table ∧ summary = table.summary rows ∧
    block = .createTable summary.tableName table.createStatement

/-- How a run accounts for the names that its source lists, in what it returns and in the events that it reports. -/
structure Accounts (names : List String) (run : Run) (events : List Event) : Prop where
  /-- There is one verdict for each listed name, as often as it is listed. -/
  listed : ((verdictsOf events).map Verdict.tableName).Perm names
  ordered : InByteOrder ((verdictsOf events).map Verdict.tableName)
  logged : (events.map Event.line).filter LogLine.isVerdict = (verdictsOf events).map Verdict.line
  /-- Each verdict stands in one of the two lists of the report. -/
  tables : run.report.tables = (verdictsOf events).filterMap Verdict.summary?
  skipped : run.report.skipped = (verdictsOf events).filterMap Verdict.skipped?
  accounted : (run.report.tables.map (·.tableName) ++ run.report.skipped.map (·.tableName)).Perm names
  total : run.report.totalTables = run.report.tables.length + run.report.skipped.length
  tablesOrdered : InByteOrder (run.report.tables.map (·.tableName))
  skippedOrdered : InByteOrder (run.report.skipped.map (·.tableName))
  /-- Exactly the tables that cannot be read are skipped, each for the reason for which it cannot be read. -/
  skipped_iff : ∀ name ∈ names, name ∈ run.report.skipped.map (·.tableName) ↔ ∃ cause, source.Skips name cause
  causes : ∀ entry ∈ run.report.skipped, source.Skips entry.tableName entry.cause
  reasons : ∀ entry ∈ run.report.skipped, source.SkipsSaying entry.tableName entry.reason
  /-- The document creates the tables of the report, one by one, and then their indexes. -/
  created : List.Forall₂ source.Creates run.report.tables run.document.tableBlocks
  blocks : run.document.blocks = run.document.tableBlocks ++ run.document.indexBlocks

variable {source}

theorem forall₂_creates (names : List String) :
    List.Forall₂ source.Creates ((names.map (source.outcome countRows)).filterMap Entry.summary?)
      ((names.map (source.outcome countRows)).flatMap Entry.tableBlocks) := by
  induction names with
  | nil => exact .nil
  | cons name names ih =>
    rw [List.map_cons, List.filterMap_cons, List.flatMap_cons]
    cases ho : source.outcome countRows name with
    | skipped other cause => exact ih
    | read table rows =>
      obtain ⟨rfl, hr⟩ := readTable_of_outcome ho
      exact .cons ⟨table, rows, hr, rfl, rfl⟩ ih

theorem skips_of_mem_skipped {names : List String} {entry : Skipped}
    (h : entry ∈ (names.map (source.outcome countRows)).filterMap Entry.skipped?) :
    source.Skips entry.tableName entry.cause := by
  obtain ⟨_, hm, e⟩ := List.mem_filterMap.1 h
  obtain ⟨name, -, rfl⟩ := List.mem_map.1 hm
  cases ho : source.outcome countRows name with
  | read table rows =>
    rw [ho] at e
    contradiction
  | skipped other cause =>
    obtain ⟨rfl, hs⟩ := skips_of_outcome ho
    rw [ho] at e
    obtain rfl := Option.some.inj e
    exact hs

theorem mem_skipped_of_skips {names : List String} {name : String} {cause : Failure} (hn : name ∈ names)
    (h : source.Skips name cause) :
    name ∈ ((names.map (source.outcome countRows)).filterMap Entry.skipped?).map (·.tableName) := by
  obtain ⟨other, ho⟩ := exists_outcome_of_skips countRows h
  exact List.mem_map.2 ⟨⟨name, other⟩, List.mem_filterMap.2 ⟨_, List.mem_map.2 ⟨name, hn, ho⟩, rfl⟩, rfl⟩

theorem not_mem_skipped_iff {names : List String} {run : Run} {name : String} (hn : source.tableNames = .ok names)
    (h : (source.run countRows).value = .ok run) (hm : name ∈ names) :
    name ∉ run.report.skipped.map (·.tableName) ↔ (source.readTable name).value.toOption.isSome = true := by
  obtain ⟨_, hn', rfl⟩ := exists_names_of_run h
  obtain rfl := Except.ok.inj (hn.symm.trans hn')
  rw [Run.skipped_ofEntries]
  cases hr : (source.readTable name).value with
  | error cause =>
    exact iff_of_false (fun hk => hk (mem_skipped_of_skips countRows (mem_orderedBy.2 hm) (skips_of_readTable hr)))
      Bool.false_ne_true
  | ok table =>
    refine iff_of_true (fun hk => ?_) rfl
    obtain ⟨entry, he, rfl⟩ := List.mem_map.1 hk
    exact not_skips_of_readTable hr _ (skips_of_mem_skipped countRows he)

/-- Nothing is skipped exactly if every listed table can be read. -/
theorem skipped_eq_nil_iff {names : List String} {run : Run} (hn : source.tableNames = .ok names)
    (h : (source.run countRows).value = .ok run) :
    run.report.skipped = [] ↔ ∀ name ∈ names, ∀ cause, ¬ source.Skips name cause := by
  obtain ⟨_, hn', rfl⟩ := exists_names_of_run h
  obtain rfl := Except.ok.inj (hn.symm.trans hn')
  rw [Run.skipped_ofEntries]
  constructor
  · intro e name hm cause hs
    have ho : name ∈ orderedBy id names := mem_orderedBy.2 hm
    have hk := mem_skipped_of_skips countRows ho hs
    rw [e] at hk
    contradiction
  · intro hr
    refine List.eq_nil_iff_forall_not_mem.2 fun entry he => ?_
    have hm := (Entry.skipped_sublist _).subset (List.mem_map_of_mem he)
    rw [map_name_outcome] at hm
    exact hr entry.tableName (mem_orderedBy.1 hm) entry.cause (skips_of_mem_skipped countRows he)

/-- **A run accounts for every listed table**, and only a source that cannot list its tables ends it. -/
theorem run_accounts (source : Source) (countRows : Bool) :
    (∀ cause, (source.run countRows).value = .error cause ↔ source.tableNames = .error cause) ∧
      ∀ names, source.tableNames = .ok names → ∃ run, (source.run countRows).value = .ok run ∧
        source.Accounts names run (source.run countRows).events := by
  refine ⟨fun cause => ?_, fun names hn => ?_⟩
  · rw [run_value]
    cases source.tableNames with
    | error other => rw [Except.map, Except.error.injEq, Except.error.injEq]
    | ok names => exact iff_of_false (fun h => nomatch h) fun h => nomatch h
  · have hr := source.run_value countRows
    rw [hn] at hr
    have hnames := source.map_name_outcome countRows (orderedBy id names)
    have hp := Entry.tables_append_skipped_perm ((orderedBy id names).map (source.outcome countRows))
    have ho := inByteOrder_orderedBy names
    rw [hnames] at hp
    have ha := hp.trans (orderedBy_perm id names)
    have hv := source.verdicts_run countRows hn
    exact ⟨_, hr, {
      listed := by
        rw [hv, Entry.tableNames_verdicts, hnames]
        exact orderedBy_perm id names
      ordered := by
        rw [hv, Entry.tableNames_verdicts, hnames]
        exact ho
      logged := lines_verdictsOf _
      tables := by
        rw [hv]
        exact (Entry.summaries_verdicts _).symm
      skipped := by
        rw [hv]
        exact (Entry.skipped_verdicts _).symm
      accounted := ha
      total := by
        rw [Run.totalTables_ofEntries, Run.tables_ofEntries, Run.skipped_ofEntries, ← ha.length_eq,
          List.length_append, List.length_map, List.length_map]
      tablesOrdered := ho.sublist (hnames ▸ Entry.tables_sublist _)
      skippedOrdered := ho.sublist (hnames ▸ Entry.skipped_sublist _)
      skipped_iff := by
        intro name hm
        constructor
        · intro h
          obtain ⟨entry, he, rfl⟩ := List.mem_map.1 h
          exact ⟨entry.cause, skips_of_mem_skipped countRows he⟩
        · exact fun ⟨_, h⟩ => mem_skipped_of_skips countRows (mem_orderedBy.2 hm) h
      causes := fun entry he => skips_of_mem_skipped countRows he
      reasons := fun entry he => (skips_of_mem_skipped countRows he).skipsSaying
      created := by
        rw [Run.tableBlocks_ofEntries]
        exact forall₂_creates countRows _
      blocks := Run.blocks_ofEntries _ _ _ }⟩

/-- A source that lists a table twice, and two tables that cannot be read. -/
def crowded : Source where
  databaseName := "db"
  tableNames := .ok ["é", "b", "a", "b"]
  columns := fun name => .ok [⟨if name = "a" then 1 else 0, "x", "TEXT", false, none, 0⟩]
  foreignKeys := fun _ => .ok []
  indexes := fun name => if name = "é" then .error (.io "denied") else .ok []
  rowCount := fun _ => .error (.io "denied")

theorem run_accounts_crowded :
    crowded.tableNames = .ok ["é", "b", "a", "b"] ∧ ∃ run, (crowded.run true).value = .ok run ∧
      crowded.Accounts ["é", "b", "a", "b"] run (crowded.run true).events ∧
      run.report.tables.map (·.tableName) = ["b", "b"] ∧
      run.report.skipped = [⟨"a", .inconsistentMetadata "a" (.ordinal "x" 1 0)⟩,
        ⟨"é", .metadataUnavailable "é" (.io "denied")⟩] ∧
      run.report.skipped.map (·.reason) =
        ["Inconsistent metadata for table `a`: column `x` has ordinal 1, expected 0",
          "Failed to read metadata for table `é`: io error: `denied`"] := by
  obtain ⟨run, hr, ha⟩ := (run_accounts crowded true).2 _ rfl
  refine ⟨rfl, run, hr, ha, ?_⟩
  rw [run_value] at hr
  obtain rfl := Except.ok.inj hr
  exact ⟨rfl, rfl, by decide +kernel⟩

end Source

end CatalogDdl
