import CatalogDdl.Command.Basic
import CatalogDdl.Proofs.Output.Delivery
import CatalogDdl.Proofs.Output.Server
import CatalogDdl.Proofs.Run.Accounting
import CatalogDdl.Proofs.Run.Declarations
import Mathlib.Data.List.SplitBy

/-! # How commands end

A command that puts out the schema of a database first reads it. Either it ends there, and no output was touched, or
its result says how the schema was read and whether it was put out.

* `Machine.Unreadable`: why the schema of a database cannot be read, by the step that fails first.
* `Machine.LeavesOutputs`: a command that ends there.
* `Machine.Succeeds`: whether each step of putting out a run succeeds; `Concludes`: the result that says so.
* `Machine.PutsInFile`: what a command does that puts a run into a file.
* `Script.Arrived`: a script of which everything has been received.
* `Machine.perform_ends`: a command that puts out a schema leaves the outputs as they are, or ends as its steps do.
-/

namespace CatalogDdl
set_option autoImplicit false

/-! ## Commands -/

def Failure.isOutput : Failure → Bool
  | output _ | outputBy .. => true
  | _ => false

namespace Command

/-- Whether a command reads a schema and puts it out. -/
def putsOut : Command → Bool
  | check _ => false
  | _ => true

def countsRows : Command → Bool
  | analyze _ => true
  | .export _ noRowCounts => !noRowCounts
  | apply _ | check _ => false

end Command

/-- Whether a server takes each step that executes statements in a transaction. -/
def Server.Executes (server : Server) (statements : List String) : Prop :=
  server.isReachable = true ∧ server.accepts .begin = true ∧ server.ExecutesAll 0 statements ∧
    server.accepts .commit = true

namespace Machine
variable (machine : Machine)

/-- Why the schema of a database cannot be read. -/
inductive Unreadable (path : String) : Failure → Prop
  | opening {cause : Failure} (failed : machine.openSource path = .error cause) : Unreadable path cause
  | listing {opened : OpenedSource} {cause : Failure} (opens : machine.openSource path = .ok opened)
    (failed : opened.source.tableNames = .error cause) : Unreadable path cause
  | closing {opened : OpenedSource} {names : List String} {cause : Failure}
    (opens : machine.openSource path = .ok opened) (lists : opened.source.tableNames = .ok names)
    (failed : opened.close = .error cause) : Unreadable path cause

/-- Whether each step of putting out a run succeeds. -/
def Succeeds (now : String) (run : Run) : Command → Prop
  | .analyze none => True
  | .analyze (some path) => ∃ name device, machine.createFile path = some (name, device) ∧
      (device.writeOut [run.report.json now]).complete = true
  | .export path _ => ∃ name device, machine.createFile path = some (name, device) ∧
      (device.deliver (Script.pieces run)).complete = true
  | .apply target => (machine.route target.connectionString).server.Executes run.document.statements
  | .check _ => True

end Machine

/-- A result that says whether all steps succeed, and which tables are missing from the run. -/
inductive Concludes (succeeds : Prop) (run : Run) : Except Failure Completion → Prop
  | done : succeeds → Concludes succeeds run (.ok (.ofRun run))
  | failed {failure : Failure} : ¬ succeeds → failure.isOutput = true → Concludes succeeds run (.error failure)

namespace Concludes
variable {succeeds : Prop} {run : Run} {result : Except Failure Completion}

theorem eq_ok_iff (h : Concludes succeeds run result) {completion : Completion} :
    result = .ok completion ↔ succeeds ∧ Completion.ofRun run = completion := by
  cases h with
  | done hs => rw [Except.ok.injEq, and_iff_right hs]
  | failed hs => exact iff_of_false (fun e => nomatch e) fun e => hs e.1

theorem exists_isOutput (h : Concludes succeeds run result) (hs : ¬ succeeds) :
    ∃ failure, result = .error failure ∧ failure.isOutput = true := by
  cases h with
  | done hd => exact absurd hd hs
  | failed _ ho => exact ⟨_, rfl, ho⟩

end Concludes

/-! ## Reading a schema -/

namespace Source
variable {source : Source} {countRows : Bool} {run : Run} {names : List String}

theorem ofRun_eq_complete_iff (hn : source.tableNames = .ok names) (h : (source.run countRows).value = .ok run) :
    Completion.ofRun run = .complete ↔ ∀ name ∈ names, ∀ cause, ¬ source.Skips name cause := by
  rw [← skipped_eq_nil_iff countRows hn h, Completion.ofRun, Run.isPartial, Report.isPartial]
  cases run.report.skipped <;> simp

theorem ofRun_eq_partly_iff (hn : source.tableNames = .ok names) (h : (source.run countRows).value = .ok run) :
    Completion.ofRun run = .partly ↔ ∃ name ∈ names, ∃ cause, source.Skips name cause := by
  have hc : Completion.ofRun run = .partly ↔ ¬ Completion.ofRun run = .complete := by
    cases Completion.ofRun run <;> decide
  rw [hc, ofRun_eq_complete_iff hn h]
  push Not
  rfl

/-- Every statement of a table that can be read stands in the document. -/
theorem mem_statements (hn : source.tableNames = .ok names) (h : (source.run countRows).value = .ok run)
    {name : String} (hm : name ∈ names) {table : Table} (ht : (source.readTable name).value = .ok table) :
    table.createStatement ∈ run.document.statements ∧
      ∀ sql ∈ table.indexStatements, sql ∈ run.document.statements := by
  obtain ⟨ha, hb⟩ := mem_blocks h hn (mem_tablesOf.2 ⟨name, mem_orderedBy.2 hm, ht⟩)
  refine ⟨List.mem_map.2 ⟨_, ha, rfl⟩, fun sql hq => ?_⟩
  obtain ⟨index, ho, rfl⟩ := List.mem_map.1 hq
  exact List.mem_map.2 ⟨_, hb index ho, rfl⟩

end Source

namespace Machine
variable {machine : Machine} {path : String} {cause : Failure}

/-- Closing comes after reading, and whether tables are missing does not matter. -/
theorem value_readSchema {opened : OpenedSource} (ho : machine.openSource path = .ok opened)
    (countRows : Bool) :
    (machine.readSchema path countRows).value =
      (opened.source.run countRows).value.bind fun run => opened.close.map fun _ => run := by
  rw [readSchema, ho]
  simp only [Traced.value_bind]
  cases (opened.source.run countRows).value with
  | error cause => rfl
  | ok run =>
    cases hc : opened.close with
    | error cause => rfl
    | ok =>
      simp only
      split <;> rfl

theorem Unreadable.value_readSchema (h : machine.Unreadable path cause) (countRows : Bool) :
    (machine.readSchema path countRows).value = .error cause := by
  cases h with
  | opening failed =>
    rw [readSchema, failed]
    rfl
  | listing opens failed =>
    rw [Machine.value_readSchema opens, Source.run_value, failed]
    rfl
  | closing opens lists failed =>
    rw [Machine.value_readSchema opens, Source.run_value, lists, failed]
    rfl

theorem exists_run_of_readable (h : ∀ cause, ¬ machine.Unreadable path cause) (countRows : Bool) :
    ∃ opened names run, machine.openSource path = .ok opened ∧ opened.source.tableNames = .ok names ∧
      (opened.source.run countRows).value = .ok run ∧ (machine.readSchema path countRows).value = .ok run := by
  cases ho : machine.openSource path with
  | error cause => exact absurd (.opening ho) (h cause)
  | ok opened =>
    cases hn : opened.source.tableNames with
    | error cause => exact absurd (.listing ho hn) (h cause)
    | ok names =>
      cases hc : opened.close with
      | error cause => exact absurd (.closing ho hn hc) (h cause)
      | ok =>
        obtain ⟨run, hr⟩ : ∃ run, (opened.source.run countRows).value = .ok run := by
          rw [Source.run_value, hn]
          exact ⟨_, rfl⟩
        refine ⟨opened, names, run, rfl, hn, hr, ?_⟩
        rw [value_readSchema ho, hr, hc]
        rfl

variable {countRows : Bool} {next : Run → Performance}

theorem withSchema_error (h : (machine.readSchema path countRows).value = .error cause) :
    machine.withSchema path countRows next =
      .quiet ⟨.error cause, (machine.readSchema path countRows).events⟩ := by
  rw [withSchema]
  cases hs : machine.readSchema path countRows with
  | mk value events =>
    rw [hs] at h
    obtain rfl : value = .error cause := h
    rfl

theorem withSchema_ok {run : Run} (h : (machine.readSchema path countRows).value = .ok run) :
    machine.withSchema path countRows next =
      (next run).after (machine.readSchema path countRows).events := by
  rw [withSchema]
  cases hs : machine.readSchema path countRows with
  | mk value events =>
    rw [hs] at h
    obtain rfl : value = .ok run := h
    rfl

/-! ## Putting out a run -/

variable {run : Run} {now : String}

/-- How a command ends that puts a run into a file: the file can be created and takes everything, or an output fails. -/
inductive PutsInFile (machine : Machine) (path : String) (put : Device → Delivery) (run : Run)
    (performance : Performance) : Prop
  | done {name : Option String} {device : Device} (creates : machine.createFile path = some (name, device))
    (complete : (put device).complete = true) (result : performance.result = .ok (.ofRun run))
    (files : performance.files = kept name (put device)) : PutsInFile machine path put run performance
  | failed {failure : Failure}
    (incomplete : ∀ name device, machine.createFile path = some (name, device) → (put device).complete = false)
    (result : performance.result = .error failure) (isOutput : failure.isOutput = true) :
    PutsInFile machine path put run performance

namespace PutsInFile
variable {put : Device → Delivery} {performance : Performance}

theorem concludes (h : machine.PutsInFile path put run performance) :
    Concludes (∃ name device, machine.createFile path = some (name, device) ∧ (put device).complete = true) run
      performance.result := by
  cases h with
  | done creates complete result files =>
    rw [result]
    exact .done ⟨_, _, creates, complete⟩
  | failed incomplete result isOutput =>
    rw [result]
    refine .failed ?_ isOutput
    rintro ⟨name, device, hf, hd⟩
    rw [incomplete name device hf] at hd
    contradiction

theorem exists_file (h : machine.PutsInFile path put run performance) {completion : Completion}
    (hr : performance.result = .ok completion) :
    ∃ name device, machine.createFile path = some (name, device) ∧ (put device).complete = true ∧
      performance.files = kept name (put device) := by
  cases h with
  | done creates complete _ files => exact ⟨_, _, creates, complete, files⟩
  | failed _ result _ => exact nomatch result.symm.trans hr

end PutsInFile

theorem incomplete_of_createFile {put : Device → Delivery} {name : Option String} {device : Device}
    (hf : machine.createFile path = some (name, device)) (hd : ¬ (put device).complete = true) (other : Option String)
    (found : Device) (h : machine.createFile path = some (other, found)) : (put found).complete = false := by
  obtain ⟨rfl, rfl⟩ := Prod.mk.inj (Option.some.inj (hf.symm.trans h))
  exact Bool.eq_false_iff.2 hd

theorem putsInFile_analyze (path : String) {database : String}
    (hr : (machine.readSchema database true).value = .ok run) :
    machine.PutsInFile path (·.writeOut [run.report.json now]) run (machine.analyze database (some path) now) := by
  rw [analyze, withSchema_ok hr]
  simp only [writeReport]
  cases hf : machine.createFile path with
  | none => exact .failed (by simp [hf]) rfl rfl
  | some file =>
    obtain ⟨name, device⟩ := file
    by_cases hd : (device.writeOut [run.report.json now]).complete = true
    · simp only [if_pos hd]
      exact .done hf hd rfl rfl
    · simp only [if_neg hd]
      exact .failed (incomplete_of_createFile hf hd) rfl rfl

theorem putsInFile_writeScript (path : String) {database : String} {countRows : Bool}
    (hr : (machine.readSchema database countRows).value = .ok run) :
    machine.PutsInFile path (·.deliver (Script.pieces run)) run (machine.writeScript database path countRows) := by
  rw [writeScript, withSchema_ok hr]
  cases hf : machine.createFile path with
  | none => exact .failed (by simp [hf]) rfl rfl
  | some file =>
    obtain ⟨name, device⟩ := file
    by_cases hd : (device.deliver (Script.pieces run)).complete = true
    · simp only [Device.deliverScript, if_pos hd]
      exact .done hf hd rfl rfl
    · simp only [Device.deliverScript, if_neg hd]
      exact .failed (incomplete_of_createFile hf hd) rfl rfl

end Machine

namespace Server
variable {server : Server} {statements : List String} {session : Session Unit}

/-- What a server sees when each step succeeds. -/
def seenInFull (statements : List String) : List ServerEvent :=
  ⟨.begin, true⟩ :: (statements.map .executed ++ [⟨.commit, true⟩])

theorem Course.executes_cases (h : Course server statements session) :
    (server.Executes statements ∧ session = ⟨.ok (), seenInFull statements⟩) ∨
      ¬ server.Executes statements ∧ ∃ failure, session.result = .error failure ∧ failure.isOutput = true := by
  cases h with
  | unreachable hr => exact .inr ⟨fun e => by simp [e.1] at hr, _, rfl, rfl⟩
  | notBegun _ hb => exact .inr ⟨fun e => by simp [e.2.1] at hb, _, rfl, rfl⟩
  | failed done sql rest _ _ e _ hf =>
    have hk : statements[done.length]? = some sql := e ▸ getElem?_failing done rest sql
    exact .inr ⟨fun he => not_executesAll hk hf he.2.2.1, _, rfl, rfl⟩
  | notCommitted _ _ _ hc => exact .inr ⟨fun e => by simp [e.2.2.2] at hc, _, rfl, rfl⟩
  | committed hr hb ha hc => exact .inl ⟨⟨hr, hb, ha, hc⟩, rfl⟩

end Server

namespace Machine
variable {machine : Machine} {run : Run}

theorem applyTo_cases (target : Target) {database : String}
    (hr : (machine.readSchema database false).value = .ok run) :
    ((machine.route target.connectionString).server.Executes run.document.statements ∧
      (machine.applyTo database target).result = .ok (.ofRun run) ∧
      (machine.applyTo database target).seen =
        (machine.route target.connectionString).asked ++ Server.seenInFull run.document.statements) ∨
    ¬ (machine.route target.connectionString).server.Executes run.document.statements ∧
      ∃ failure, (machine.applyTo database target).result = .error failure ∧ failure.isOutput = true := by
  rw [applyTo, withSchema_ok hr, withServer]
  generalize machine.route target.connectionString = route
  rcases (route.server.course_apply run.document).executes_cases with ⟨he, hs⟩ | ⟨he, failure, hs, ho⟩
  · simp only [hs]
    exact .inl ⟨he, rfl, rfl⟩
  · simp only [hs]
    exact .inr ⟨he, failure, rfl, ho⟩

theorem carryOut_concludes (now : String) {invocation : Invocation} (hp : invocation.command.putsOut = true)
    (hr : (machine.readSchema invocation.databasePath invocation.command.countsRows).value = .ok run) :
    Concludes (machine.Succeeds now run invocation.command) run (machine.carryOut invocation now).result := by
  obtain ⟨database, command⟩ := invocation
  cases command with
  | analyze json =>
    cases json with
    | none =>
      replace hr : (machine.readSchema database true).value = .ok run := hr
      change Concludes _ run (machine.analyze database none now).result
      rw [analyze, withSchema_ok hr]
      exact .done trivial
    | some path => exact (putsInFile_analyze path hr).concludes
  | «export» path noRowCounts => exact (putsInFile_writeScript path hr).concludes
  | apply target =>
    change Concludes _ run (machine.applyTo database target).result
    rcases applyTo_cases target hr with ⟨he, e, -⟩ | ⟨hn, failure, e, ho⟩
    · rw [e]
      exact .done he
    · rw [e]
      exact .failed hn ho
  | check request => contradiction

end Machine

/-! ## What arrives -/

namespace Script

/-- The lines of a script before the one that names the skipped tables. -/
def openingLines (report : Report) : List String :=
  ["-- PostgreSQL Schema\n", s!"-- Generated from SQLite database at {report.database}\n",
    s!"-- Total Tables: {report.totalTables}\n"]

/-- A script of which everything has been received. -/
structure Arrived (run : Run) (completion : Completion) (delivery : Delivery) : Prop where
  received : delivery.received.toList = Text.encoded (text run)
  flushed : delivery.flushed = true
  statements : ∀ sql ∈ run.document.statements, Text.encoded sql <:+: delivery.received.toList
  /-- After its first lines a script goes on with the names of the skipped tables exactly if there are any. -/
  skippedLine : ∃ rest, delivery.received.toList = (openingLines run.report).flatMap Text.encoded ++ rest ∧
    (Text.encoded "-- Skipped Tables: " <+: rest ↔ completion = .partly)

variable {run : Run}

theorem mem_pieces {sql : String} (h : sql ∈ run.document.statements) : sql ∈ pieces run := by
  obtain ⟨block, hb, rfl⟩ := List.mem_map.1 h
  have hs : block.sql ∈ statement block := List.mem_cons_self
  simp only [pieces, List.mem_append]
  cases ht : block.isTable with
  | true =>
    have hm : block ∈ run.document.tableBlocks := List.mem_filter.2 ⟨hb, ht⟩
    exact .inl (.inl (.inr (List.mem_flatMap.2 ⟨block, hm, List.mem_cons_of_mem _ hs⟩)))
  | false =>
    have hm : block ∈ (indexGroups run.document).flatten := by
      rw [indexGroups, List.flatten_splitBy]
      exact List.mem_filter.2 ⟨hb, by rw [ht]; rfl⟩
    obtain ⟨group, hg, hm⟩ := List.mem_flatten.1 hm
    refine .inr (List.mem_flatMap.2 ⟨group, hg, ?_⟩)
    cases group with
    | nil => contradiction
    | cons first blocks =>
      exact List.mem_cons_of_mem _ (List.mem_append_left _ (List.mem_flatMap.2 ⟨block, hm, hs⟩))

theorem infix_flatMap {α β : Type} {f : α → List β} {items : List α} {item : α} (h : item ∈ items) :
    f item <:+: items.flatMap f := by
  obtain ⟨before, after, rfl⟩ := List.append_of_mem h
  rw [List.flatMap_append, List.flatMap_cons]
  exact ⟨before.flatMap f, after.flatMap f, by rw [List.append_assoc]⟩

/-- What follows the first lines begins with the names of the skipped tables, or with a line break. -/
theorem pieces_cases (run : Run) :
    ∃ rest, pieces run = openingLines run.report ++ rest ∧
      (Text.encoded "-- Skipped Tables: " <+: rest.flatMap Text.encoded ↔ Completion.ofRun run = .partly) := by
  have hp : ∃ more, pieces run = openingLines run.report ++ (skippedLine run.report ++ "\n" :: more) := by
    refine ⟨["-- DROP SCHEMA public CASCADE;\n", "-- CREATE SCHEMA IF NOT EXISTS public;\n\n"] ++
      (banner "TABLE DEFINITIONS" ++ (tableSection run.document ++ (banner "INDEX DEFINITIONS" ++
        indexSection run.document))), ?_⟩
    simp only [pieces, header, openingLines, List.append_assoc]
    rfl
  obtain ⟨more, hp⟩ := hp
  refine ⟨_, hp, ?_⟩
  rw [skippedLine, Completion.ofRun, Run.isPartial]
  cases run.report.isPartial with
  | true =>
    have he : s!"-- Skipped Tables: {skippedNames run.report}\n" =
        "-- Skipped Tables: " ++ (skippedNames run.report ++ "\n") := by simp [toString, String.append_assoc]
    refine iff_of_true ?_ rfl
    rw [if_pos rfl, List.singleton_append, List.flatMap_cons, he, Text.encoded_append, List.append_assoc]
    exact List.prefix_append _ _
  | false =>
    refine iff_of_false (fun ⟨other, e⟩ => ?_) (by decide)
    have hs : Text.encoded "-- Skipped Tables: " = 45 :: (Text.encoded "- Skipped Tables: ") := by decide +kernel
    have hn : Text.encoded "\n" = [10] := by decide +kernel
    rw [if_neg (by decide), List.nil_append, List.flatMap_cons, hs, hn] at e
    have hc := List.head_eq_of_cons_eq e
    contradiction

theorem arrived {device : Device} (h : (device.deliver (pieces run)).complete = true) :
    Arrived run (.ofRun run) (device.deliver (pieces run)) := by
  obtain ⟨hr, hf⟩ := Device.received_deliver h
  have hj : (device.deliver (pieces run)).received.toList = (pieces run).flatMap Text.encoded := by
    rw [hr, Text.encoded_join]
  obtain ⟨rest, hp, hs⟩ := pieces_cases run
  refine ⟨hr, hf, fun sql hm => ?_, rest.flatMap Text.encoded, ?_, hs⟩
  · rw [hj]
    exact infix_flatMap (mem_pieces hm)
  · rw [hj, hp, List.flatMap_append]

end Script

theorem statementsSeen_seenInFull (statements : List String) :
    statementsSeen (Server.seenInFull statements) = statements := by
  rw [Server.seenInFull, Server.Course.statementsSeen_course]
  exact List.append_nil statements

theorem durable_seenInFull (statements : List String) : durable (Server.seenInFull statements) = statements := by
  rw [Server.seenInFull, Server.Course.durable_course]
  rfl

/-! ## Commands as a whole -/

namespace Machine

/-- A command that ends before it comes to any output. No file is written, and the only one that may have been created
is the database itself. No server sees anything. What outputs there are makes no difference. -/
structure LeavesOutputs (machine : Machine) (invocation : Invocation) (now : String) (cause : Failure) : Prop where
  result : (machine.perform invocation now).result = .error cause
  files : (machine.perform invocation now).files = machine.createdBy invocation.databasePath
  seen : (machine.perform invocation now).seen = []
  independent : ∀ createFile route,
    (Machine.mk machine.openSource createFile route).perform invocation now = machine.perform invocation now

/-- How a command ends that has read the listed tables of a source by a run. -/
structure Ends (machine : Machine) (invocation : Invocation) (now : String) (source : Source) (names : List String)
    (run : Run) : Prop where
  partly_iff : (machine.perform invocation now).result = .ok .partly ↔
    (∃ name ∈ names, ∃ cause, source.Skips name cause) ∧ machine.Succeeds now run invocation.command
  complete_iff : (machine.perform invocation now).result = .ok .complete ↔
    (∀ name ∈ names, ∀ cause, ¬ source.Skips name cause) ∧ machine.Succeeds now run invocation.command
  failure : ¬ machine.Succeeds now run invocation.command →
    ∃ failure, (machine.perform invocation now).result = .error failure ∧ failure.isOutput = true
  statements : ∀ name ∈ names, ∀ table, (source.readTable name).value = .ok table →
    table.createStatement ∈ run.document.statements ∧
      ∀ sql ∈ table.indexStatements, sql ∈ run.document.statements
  report : ∀ path completion, invocation.command = .analyze (some path) →
    (machine.perform invocation now).result = .ok completion →
      ∃ name device, machine.createFile path = some (name, device) ∧
        (machine.perform invocation now).files =
          machine.createdBy invocation.databasePath ++ kept name (device.writeOut [run.report.json now]) ∧
        (device.writeOut [run.report.json now]).received.toList = Text.encoded (run.report.json now)
  script : ∀ path noRowCounts completion, invocation.command = .export path noRowCounts →
    (machine.perform invocation now).result = .ok completion →
      ∃ name device, machine.createFile path = some (name, device) ∧
        (machine.perform invocation now).files =
          machine.createdBy invocation.databasePath ++ kept name (device.deliver (Script.pieces run)) ∧
        Script.Arrived run completion (device.deliver (Script.pieces run))
  server : ∀ target completion, invocation.command = .apply target →
    (machine.perform invocation now).result = .ok completion →
      ∃ seen, (machine.perform invocation now).seen = (machine.route target.connectionString).asked ++ seen ∧
        statementsSeen seen = run.document.statements ∧ durable seen = run.document.statements

variable {machine : Machine} {invocation : Invocation}

theorem carryOut_error (now : String) {cause : Failure} (hp : invocation.command.putsOut = true)
    (h : (machine.readSchema invocation.databasePath invocation.command.countsRows).value = .error cause) :
    machine.carryOut invocation now =
      .quiet ⟨.error cause,
        (machine.readSchema invocation.databasePath invocation.command.countsRows).events⟩ := by
  obtain ⟨database, command⟩ := invocation
  cases command with
  | analyze json => exact withSchema_error h
  | «export» path noRowCounts => exact withSchema_error h
  | apply target => exact withSchema_error h
  | check request => contradiction

theorem leavesOutputs {now : String} {cause : Failure} (hp : invocation.command.putsOut = true)
    (h : machine.Unreadable invocation.databasePath cause) : machine.LeavesOutputs invocation now cause := by
  have hr := h.value_readSchema invocation.command.countsRows
  have hc := carryOut_error now hp hr
  refine ⟨?_, ?_, ?_, fun createFile route => ?_⟩
  · rw [perform, hc]
    rfl
  · rw [perform, hc]
    exact List.append_nil _
  · rw [perform, hc]
    rfl
  · have hm : (Machine.mk machine.openSource createFile route).carryOut invocation now =
        .quiet ⟨.error cause, (machine.readSchema invocation.databasePath invocation.command.countsRows).events⟩ :=
      carryOut_error now hp hr
    rw [perform, perform, hc, hm]
    rfl

/-- **A command that puts out a schema leaves the outputs as they are, or ends as its steps do**, and where it ends well
everything has arrived. -/
theorem perform_ends (machine : Machine) (invocation : Invocation) (now : String)
    (hp : invocation.command.putsOut = true) :
    (∀ cause, machine.Unreadable invocation.databasePath cause → machine.LeavesOutputs invocation now cause) ∧
      ((∀ cause, ¬ machine.Unreadable invocation.databasePath cause) → ∃ opened names run,
        machine.openSource invocation.databasePath = .ok opened ∧ opened.source.tableNames = .ok names ∧
          (opened.source.run invocation.command.countsRows).value = .ok run ∧
            machine.Ends invocation now opened.source names run) := by
  refine ⟨fun cause h => leavesOutputs hp h, fun h => ?_⟩
  obtain ⟨opened, names, run, ho, hn, hr, hs⟩ := exists_run_of_readable h invocation.command.countsRows
  have hc := carryOut_concludes now hp hs
  have hok {completion : Completion} : (machine.perform invocation now).result = .ok completion ↔
      machine.Succeeds now run invocation.command ∧ Completion.ofRun run = completion := hc.eq_ok_iff
  refine ⟨opened, names, run, ho, hn, hr, {
    partly_iff := by rw [hok, Source.ofRun_eq_partly_iff hn hr, and_comm]
    complete_iff := by rw [hok, Source.ofRun_eq_complete_iff hn hr, and_comm]
    failure := hc.exists_isOutput
    statements := fun name hm table ht => Source.mem_statements hn hr hm ht
    report := ?_
    script := ?_
    server := ?_ }⟩
  · intro path completion e h
    obtain ⟨-, rfl⟩ := hok.1 h
    obtain ⟨database, command⟩ := invocation
    obtain rfl : command = .analyze (some path) := e
    obtain ⟨name, device, hf, hd, hk⟩ := (putsInFile_analyze path hs).exists_file h
    refine ⟨name, device, hf, congrArg (machine.createdBy database ++ ·) hk, ?_⟩
    rw [Device.received_writeOut hd, String.join_cons, String.join_nil, String.append_empty]
  · intro path noRowCounts completion e h
    obtain ⟨-, rfl⟩ := hok.1 h
    obtain ⟨database, command⟩ := invocation
    obtain rfl : command = .export path noRowCounts := e
    obtain ⟨name, device, hf, hd, hk⟩ := (putsInFile_writeScript path hs).exists_file h
    exact ⟨name, device, hf, congrArg (machine.createdBy database ++ ·) hk, Script.arrived hd⟩
  · intro target completion e h
    obtain ⟨database, command⟩ := invocation
    obtain rfl : command = .apply target := e
    rcases applyTo_cases target hs with ⟨-, -, hk⟩ | ⟨-, failure, hx, -⟩
    · exact ⟨_, hk, statementsSeen_seenInFull _, durable_seenInFull _⟩
    · exact nomatch hx.symm.trans h

/-- A machine whose only database lists tables that cannot be read, with one device for all files and one server, which
is asked what it is like by all who connect to it. -/
def crowded (device : Device) (server : Server) : Machine where
  openSource _ := .ok ⟨Source.crowded, .ok (), none⟩
  createFile path := some (some path, device)
  route _ := ⟨[⟨.statement Network.modeQuestion, true⟩], server⟩

/-- A device that takes everything, but cannot be flushed. -/
def unflushed : Device :=
  { Device.unlimited with flushes := false }

def willing : Server :=
  ⟨true, true, fun _ => true, none, some "off"⟩

theorem perform_ends_crowded :
    (Command.export "f1.sql" false).putsOut = true ∧
      ((crowded .unlimited willing).perform ⟨"f1.db", .export "f1.sql" false⟩ "").result = .ok .partly ∧
      (∃ delivery run,
        ((crowded .unlimited willing).perform ⟨"f1.db", .export "f1.sql" false⟩ "").files =
            [("f1.sql", delivery.received)] ∧
          (Source.crowded.run true).value = .ok run ∧ Script.Arrived run .partly delivery) ∧
      ((crowded unflushed willing).perform ⟨"f1.db", .analyze (some "f1.json")⟩ "").result = .ok .partly ∧
      ∀ target, ((crowded unflushed willing).perform ⟨"f1.db", .apply target⟩ "").result = .ok .partly := by
  have hu (device : Device) : ∀ cause, ¬ (crowded device willing).Unreadable "f1.db" cause := by
    rintro cause (hf | ⟨hf, hl⟩ | ⟨hf, -, hl⟩)
    · contradiction
    · obtain rfl := Except.ok.inj hf
      contradiction
    · obtain rfl := Except.ok.inj hf
      contradiction
  have hends (device : Device) (command : Command) (hp : command.putsOut = true) :
      ∃ run, (Source.crowded.run command.countsRows).value = .ok run ∧
        (crowded device willing).Ends ⟨"f1.db", command⟩ "" Source.crowded ["é", "b", "a", "b"] run := by
    obtain ⟨opened, names, run, ho, hn, hr, he⟩ :=
      (perform_ends (crowded device willing) ⟨"f1.db", command⟩ "" hp).2 (hu device)
    obtain rfl := Except.ok.inj ho
    obtain rfl := Except.ok.inj hn
    exact ⟨run, hr, he⟩
  have hm : ∃ name ∈ ["é", "b", "a", "b"], ∃ cause, Source.crowded.Skips name cause :=
    ⟨"é", by decide, .metadataUnavailable "é" (.io "denied"), .indexes rfl rfl rfl⟩
  refine ⟨rfl, ?_⟩
  obtain ⟨run, hr, he⟩ := hends .unlimited (.export "f1.sql" false) rfl
  have hp := he.partly_iff.2 ⟨hm, _, _, rfl, Device.complete_unlimited _⟩
  obtain ⟨name, device, hf, hk, ha⟩ := he.script "f1.sql" false .partly rfl hp
  obtain ⟨rfl, rfl⟩ := Prod.mk.inj (Option.some.inj hf)
  refine ⟨hp, ⟨_, run, hk, hr, ha⟩, ?_, fun target => ?_⟩
  · obtain ⟨run, -, he⟩ := hends unflushed (.analyze (some "f1.json")) rfl
    have hd : 0 < UInt64.size := by decide
    exact he.partly_iff.2 ⟨hm, _, _, rfl, Device.complete_writeOut rfl (fun _ => hd) _⟩
  · obtain ⟨run, hr, he⟩ := hends unflushed (.apply target) rfl
    have hw : willing.ExecutesAll 0 run.document.statements := by
      replace hr : (Source.crowded.run false).value = .ok run := hr
      rw [Source.run_value] at hr
      obtain rfl := Except.ok.inj hr
      exact Server.executesAll_cons.2 ⟨by decide +kernel,
        Server.executesAll_cons.2 ⟨by decide +kernel, Server.executesAll_nil _⟩⟩
    exact he.partly_iff.2 ⟨hm, rfl, rfl, hw, rfl⟩

end Machine

end CatalogDdl
