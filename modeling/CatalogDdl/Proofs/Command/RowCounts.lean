import CatalogDdl.Proofs.Command.Outcome
import CatalogDdl.Proofs.Run.Rearrangement

/-! # Counting rows

The number of rows of a table is for information only. It stands in the report and nowhere else.

* `Source.AgreeButCounts`, `Machine.AgreeButCounts`: sources, and machines, that may differ in counts of rows.
* `Run.AgreeButCounts`: runs that say the same, but for the counts in their summaries.
* `Source.run_agreeButCounts`: neither the counts nor the demand for them change anything else.
-/

namespace CatalogDdl
set_option autoImplicit false

/-! ## Agreement -/

/-- Sources that answer every question in the same way, except those for numbers of rows. -/
structure Source.AgreeButCounts (source other : Source) : Prop where
  databaseName : source.databaseName = other.databaseName
  tableNames : source.tableNames = other.tableNames
  columns : source.columns = other.columns
  foreignKeys : source.foreignKeys = other.foreignKeys
  indexes : source.indexes = other.indexes

def Summary.uncounted (summary : Summary) : Summary :=
  { summary with rowCount := none }

structure Run.AgreeButCounts (run other : Run) : Prop where
  document : run.document = other.document
  database : run.report.database = other.report.database
  totalTables : run.report.totalTables = other.report.totalTables
  tables : run.report.tables.map Summary.uncounted = other.report.tables.map Summary.uncounted
  skipped : run.report.skipped = other.report.skipped

structure OpenedSource.AgreeButCounts (opened other : OpenedSource) : Prop where
  source : opened.source.AgreeButCounts other.source
  close : opened.close = other.close
  created : opened.created = other.created

/-- Machines on which the same files can be created, and the same databases opened but for their numbers of rows. -/
structure Machine.AgreeButCounts (machine other : Machine) : Prop where
  openSource : ∀ path, SameAnswer OpenedSource.AgreeButCounts (machine.openSource path) (other.openSource path)
  createFile : machine.createFile = other.createFile

/-! ## Runs -/

namespace Source
variable {source other : Source}

theorem value_rowsOf_eq_some_iff {countRows : Bool} {name : String} {rows : Nat} :
    (source.rowsOf countRows name).value = some rows ↔ countRows = true ∧ source.rowCount name = .ok rows := by
  rw [rowsOf]
  cases countRows with
  | false => simp
  | true =>
    rw [if_pos rfl]
    cases source.rowCount name with
    | error cause =>
      have hn : (none : Option Nat) ≠ some rows := (Option.some_ne_none rows).symm
      have he : (Except.error cause : Except Failure Nat) ≠ .ok rows := by simp
      exact iff_of_false hn fun h => he h.2
    | ok found => simp

/-- The two outcomes of a table differ at most in the count. -/
theorem AgreeButCounts.outcome (h : source.AgreeButCounts other) (countRows otherCounts : Bool) (name : String)
    {α : Type} (part : Entry → α) (hp : ∀ table rows others, part (.read table rows) = part (.read table others)) :
    part (source.outcome countRows name) = part (other.outcome otherCounts name) := by
  have hr := readTable_congr (congrFun h.columns name) (congrFun h.foreignKeys name) (congrFun h.indexes name)
  rw [Source.outcome, Source.outcome, hr]
  cases (other.readTable name).value with
  | ok table => exact hp table _ _
  | error cause => rfl

theorem AgreeButCounts.agree_ofEntries (h : source.AgreeButCounts other) (countRows otherCounts : Bool)
    (names : List String) (database : String) (listed : Nat) :
    (Run.ofEntries database listed (names.map (source.outcome countRows))).AgreeButCounts
      (Run.ofEntries database listed (names.map (other.outcome otherCounts))) where
  document := Run.document_congr database listed
    (fun name => h.outcome countRows otherCounts name Entry.tableBlocks fun _ _ _ => rfl)
    (fun name => h.outcome countRows otherCounts name Entry.indexBlocks fun _ _ _ => rfl) names
  database := rfl
  totalTables := rfl
  tables := by
    simp only [Run.tables_ofEntries, List.filterMap_map, List.map_filterMap]
    exact List.filterMap_congr fun name _ =>
      h.outcome countRows otherCounts name (fun entry => entry.summary?.map Summary.uncounted) fun _ _ _ => rfl
  skipped := by
    simp only [Run.skipped_ofEntries, List.filterMap_map]
    exact List.filterMap_congr fun name _ => h.outcome countRows otherCounts name Entry.skipped? fun _ _ _ => rfl

theorem sameAnswer_run (h : source.AgreeButCounts other) (countRows otherCounts : Bool) :
    SameAnswer Run.AgreeButCounts (source.run countRows).value (other.run otherCounts).value := by
  rw [run_value, run_value, h.tableNames, h.databaseName]
  cases other.tableNames with
  | error cause => exact .error cause
  | ok names => exact .ok (h.agree_ofEntries countRows otherCounts _ _ _)

/-- What counting does in a run: a summary bears the count that its table has, and a table stays without one. -/
structure CountsRows (source : Source) (countRows : Bool) (run : Run) : Prop where
  rowCount_iff : ∀ summary ∈ run.report.tables, ∀ rows,
    summary.rowCount = some rows ↔ countRows = true ∧ source.rowCount summary.tableName = .ok rows
  kept : ∀ names, source.tableNames = .ok names → ∀ name ∈ names, ∀ table, (source.readTable name).value = .ok table →
    ∀ cause, source.rowCount name = .error cause →
      table.summary none ∈ run.report.tables ∧ name ∉ run.report.skipped.map (·.tableName) ∧
        .createTable name table.createStatement ∈ run.document.blocks ∧
        ∀ index ∈ table.ownIndexes, .createIndex name index.name (index.createStatement name) ∈ run.document.blocks

theorem countsRows_of_run {countRows : Bool} {run : Run} (h : (source.run countRows).value = .ok run) :
    source.CountsRows countRows run where
  rowCount_iff := by
    obtain ⟨names, -, rfl⟩ := exists_names_of_run h
    intro summary hs rows
    obtain ⟨_, he, e⟩ := List.mem_filterMap.1 hs
    obtain ⟨name, -, rfl⟩ := List.mem_map.1 he
    rw [outcome] at e
    cases hr : (source.readTable name).value with
    | error cause =>
      rw [hr] at e
      contradiction
    | ok table =>
      rw [hr] at e
      obtain rfl := Option.some.inj e
      have hn : (table.summary (source.rowsOf countRows name).value).tableName = name := name_of_readTable hr
      rw [hn]
      exact value_rowsOf_eq_some_iff
  kept := by
    intro names hn name hm table hr cause hc
    have hk : name ∉ run.report.skipped.map (·.tableName) :=
      (not_mem_skipped_iff countRows hn h hm).2 (by rw [hr]; rfl)
    have hv : (source.rowsOf countRows name).value = none := by
      rw [Option.eq_none_iff_forall_ne_some]
      intro rows he
      obtain ⟨-, he⟩ := value_rowsOf_eq_some_iff.1 he
      rw [hc] at he
      contradiction
    have ho : source.outcome countRows name = .read table none := by
      rw [outcome, hr]
      exact congrArg _ hv
    obtain ⟨hb, hi⟩ := mem_blocks h hn (mem_tablesOf.2 ⟨name, mem_orderedBy.2 hm, hr⟩)
    rw [name_of_readTable hr] at hb hi
    refine ⟨?_, hk, hb, hi⟩
    obtain ⟨listed, hl, rfl⟩ := exists_names_of_run h
    obtain rfl := Except.ok.inj (hl.symm.trans hn)
    exact List.mem_filterMap.2 ⟨_, List.mem_map.2 ⟨name, mem_orderedBy.2 hm, ho⟩, rfl⟩

end Source

/-! ## Exports -/

theorem Script.pieces_congr {run other : Run} (h : run.AgreeButCounts other) : pieces run = pieces other := by
  have hh : header run.report = header other.report := by
    rw [header, header, skippedLine, skippedLine, skippedNames, skippedNames, Report.isPartial, Report.isPartial,
      h.database, h.totalTables, h.skipped]
  rw [pieces, pieces, hh, h.document]

theorem Run.AgreeButCounts.isPartial_eq {run other : Run} (h : run.AgreeButCounts other) :
    run.isPartial = other.isPartial := by
  rw [isPartial, isPartial, Report.isPartial, Report.isPartial, h.skipped]

namespace Machine
variable {machine other : Machine}

theorem sameAnswer_readSchema (h : machine.AgreeButCounts other) (path : String) (countRows otherCounts : Bool) :
    SameAnswer Run.AgreeButCounts (machine.readSchema path countRows).value
      (other.readSchema path otherCounts).value := by
  have ho := h.openSource path
  cases hm : machine.openSource path with
  | error cause =>
    rw [readSchema, readSchema, hm, ho.eq_error hm]
    exact .error cause
  | ok opened =>
    obtain ⟨found, hn, ha⟩ := ho.exists_ok hm
    -- Closing answers the same on both machines, and only after the runs have.
    have hr := Source.sameAnswer_run ha.source countRows otherCounts
    rw [value_readSchema hm, value_readSchema hn, ha.close]
    revert hr
    generalize (opened.source.run countRows).value = first
    generalize (found.source.run otherCounts).value = second
    intro hr
    cases hr with
    | error cause => exact .error cause
    | ok hb =>
      cases found.close with
      | error cause => exact .error cause
      | ok => exact .ok hb

theorem createdBy_congr (h : machine.AgreeButCounts other) (path : String) :
    machine.createdBy path = other.createdBy path := by
  have ho := h.openSource path
  rw [createdBy, createdBy]
  cases hm : machine.openSource path with
  | error cause => rw [ho.eq_error hm]
  | ok opened =>
    obtain ⟨found, hn, ha⟩ := ho.exists_ok hm
    simp only [hn, ha.created]

theorem writeScript_congr (h : machine.AgreeButCounts other) (database path : String) (countRows otherCounts : Bool) :
    (machine.writeScript database path countRows).files = (other.writeScript database path otherCounts).files ∧
      (machine.writeScript database path countRows).result = (other.writeScript database path otherCounts).result := by
  have hs := sameAnswer_readSchema h database countRows otherCounts
  rw [writeScript, writeScript]
  cases hm : (machine.readSchema database countRows).value with
  | error cause =>
    rw [withSchema_error hm, withSchema_error (hs.eq_error hm)]
    exact ⟨rfl, rfl⟩
  | ok run =>
    obtain ⟨counted, hn, ha⟩ := hs.exists_ok hm
    have hd : ∀ device : Device, device.deliverScript run = device.deliverScript counted := by
      intro device
      rw [Device.deliverScript, Device.deliverScript, Script.pieces_congr ha]
    have hc : Completion.ofRun run = .ofRun counted := by
      rw [Completion.ofRun, Completion.ofRun, ha.isPartial_eq]
    rw [withSchema_ok hm, withSchema_ok hn, h.createFile]
    cases other.createFile path with
    | none => exact ⟨rfl, rfl⟩
    | some file =>
      simp only [hd]
      generalize file.2.deliverScript counted = outcome
      obtain ⟨delivery, answer⟩ := outcome
      cases answer with
      | error cause => exact ⟨rfl, rfl⟩
      | ok => exact ⟨rfl, congrArg Except.ok hc⟩

theorem perform_export_congr (h : machine.AgreeButCounts other) (database path now : String)
    (noRowCounts otherNoRowCounts : Bool) :
    (machine.perform ⟨database, .export path noRowCounts⟩ now).files =
        (other.perform ⟨database, .export path otherNoRowCounts⟩ now).files ∧
      (machine.perform ⟨database, .export path noRowCounts⟩ now).result =
        (other.perform ⟨database, .export path otherNoRowCounts⟩ now).result := by
  obtain ⟨hf, hr⟩ := writeScript_congr h database path (!noRowCounts) (!otherNoRowCounts)
  rw [perform, perform, carryOut, carryOut, createdBy_congr h, hf]
  exact ⟨rfl, hr⟩

end Machine

/-! ## Counting -/

namespace Source

/-- **Counting rows is for information only.** Runs over sources that differ in counts, with and without the demand for
them, differ in the counts of their summaries, and exports do not differ at all in what they write. -/
theorem run_agreeButCounts {source other : Source} (h : source.AgreeButCounts other) (countRows otherCounts : Bool) :
    SameAnswer Run.AgreeButCounts (source.run countRows).value (other.run otherCounts).value ∧
      (∀ run, (source.run countRows).value = .ok run → source.CountsRows countRows run) ∧
      ∀ machine others : Machine, machine.AgreeButCounts others → ∀ database path now noRowCounts otherNoRowCounts,
        (machine.perform ⟨database, .export path noRowCounts⟩ now).files =
            (others.perform ⟨database, .export path otherNoRowCounts⟩ now).files ∧
          (machine.perform ⟨database, .export path noRowCounts⟩ now).result =
            (others.perform ⟨database, .export path otherNoRowCounts⟩ now).result :=
  ⟨sameAnswer_run h countRows otherCounts, fun _ => countsRows_of_run, fun _ _ ha => Machine.perform_export_congr ha⟩

/-- A source with a table that cannot be read, and with the rows of one table as given. -/
def locked (rows : Except Failure Nat) : Source where
  databaseName := "db"
  tableNames := .ok ["b", "c", "a"]
  columns := fun name => if name = "c" then .error (.io "denied") else .ok [⟨0, "x", "TEXT", false, none, 0⟩]
  foreignKeys := fun _ => .ok []
  indexes := fun name => .ok [⟨"i" ++ name, false, some .createIndex, [some "x"]⟩]
  rowCount := fun name => if name = "b" then .error (.io "locked") else rows

/-- A machine with that source as its only database, and with a device that takes seven bytes at a time. -/
def lockedMachine (rows : Except Failure Nat) : Machine where
  openSource := fun _ => .ok ⟨locked rows, .ok (), none⟩
  createFile := fun path => some (some path, ⟨none, fun _ => 7, true⟩)
  route := fun _ => ⟨[], .absent⟩

theorem run_agreeButCounts_locked :
    (locked (.ok 3)).AgreeButCounts (locked (.error (.io "busy"))) ∧
      (∃ run other, ((locked (.ok 3)).run true).value = .ok run ∧
        ((locked (.error (.io "busy"))).run true).value = .ok other ∧ run.AgreeButCounts other ∧
        (locked (.ok 3)).CountsRows true run ∧ run.report.tables.map (·.rowCount) = [some 3, none] ∧
        other.report.tables.map (·.rowCount) = [none, none]) ∧
      (lockedMachine (.ok 3)).AgreeButCounts (lockedMachine (.error (.io "busy"))) ∧
      ((lockedMachine (.ok 3)).perform ⟨"f1.db", .export "f1.sql" false⟩ "").files =
        ((lockedMachine (.error (.io "busy"))).perform ⟨"f1.db", .export "f1.sql" true⟩ "").files := by
  have ha : (locked (.ok 3)).AgreeButCounts (locked (.error (.io "busy"))) := ⟨rfl, rfl, rfl, rfl, rfl⟩
  have hm : (lockedMachine (.ok 3)).AgreeButCounts (lockedMachine (.error (.io "busy"))) :=
    ⟨fun _ => .ok ⟨ha, rfl, rfl⟩, rfl⟩
  obtain ⟨hs, hc, he⟩ := run_agreeButCounts ha true true
  have hr := (locked (.ok 3)).run_value true
  have hn := (locked (.error (.io "busy"))).run_value true
  obtain ⟨_, ho, hb⟩ := hs.exists_ok hr
  obtain rfl := Except.ok.inj (hn.symm.trans ho)
  exact ⟨ha, ⟨_, _, hr, hn, hb, hc _ hr, by decide +kernel, by decide +kernel⟩, hm,
    (he _ _ hm "f1.db" "f1.sql" "" false true).1⟩

end Source

end CatalogDdl
