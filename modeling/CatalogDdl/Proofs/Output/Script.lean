import Mathlib.Data.List.SplitBy
import CatalogDdl.Output.Script
import CatalogDdl.Proofs.Run.Statements
import CatalogDdl.Proofs.Sql.Commentary

/-! # What a client reads in a script

* `Script.segments`: a script as commentary and statements; `Script.toList_text` says that it is the same text.
* `HarmlessNames`: no name that is written into a comment leaves it with a line of its own.
* `Source.readsAsMarked_segments_iff`: a client executes the statements of the document and nothing else exactly
  if the names are harmless.

Names are written into comments as they are, so a line break in a name ends the comment: what follows it in the
name is read as a part of the script.
-/

namespace CatalogDdl
set_option autoImplicit false
open Sql

namespace Script

/-! ## The segments of a script -/

def bannerSegments (title : String) : List Segment :=
  [.commentary "", .commentary rule, .commentary s!"-- {title}", .commentary rule]

def skippedSegments (report : Report) : List Segment :=
  if report.isPartial then [.commentary s!"-- Skipped Tables: {skippedNames report}"] else []

def headerSegments (report : Report) : List Segment :=
  [.commentary "-- PostgreSQL Schema", .commentary s!"-- Generated from SQLite database at {report.database}",
    .commentary s!"-- Total Tables: {report.totalTables}"] ++
  skippedSegments report ++
  [.commentary "", .commentary "-- DROP SCHEMA public CASCADE;",
    .commentary "-- CREATE SCHEMA IF NOT EXISTS public;", .commentary ""]

def tableSegments (block : Block) : List Segment :=
  [.commentary s!"-- Table: {block.table}", .statement block.sql]

def groupSegments : List Block → List Segment
  | [] => []
  | block :: blocks =>
    .commentary s!"-- Indexes for table: {block.table}" ::
      ((block :: blocks).map (Segment.statement ·.sql) ++ [.commentary ""])

def segments (run : Run) : List Segment :=
  headerSegments run.report ++ bannerSegments "TABLE DEFINITIONS" ++
    run.document.tableBlocks.flatMap tableSegments ++ bannerSegments "INDEX DEFINITIONS" ++
      (indexGroups run.document).flatMap groupSegments

/-! ## The text of a script -/

theorem segmentsText_banner (title : String) :
    segmentsText (bannerSegments title) = (banner title).flatMap String.toList := by
  simp [segmentsText, bannerSegments, banner, Segment.text, toString]

theorem segmentsText_header (report : Report) :
    segmentsText (headerSegments report) = (header report).flatMap String.toList := by
  rw [headerSegments, header, skippedSegments, skippedLine]
  cases report.isPartial <;> simp [segmentsText, Segment.text, toString]

theorem segmentsText_table (block : Block) :
    segmentsText (tableSegments block) =
      (s!"-- Table: {block.table}\n" :: statement block).flatMap String.toList := by
  simp [segmentsText, tableSegments, statement, Segment.text, toString]

theorem segmentsText_group (group : List Block) :
    segmentsText (groupSegments group) = (indexGroup group).flatMap String.toList := by
  cases group with
  | nil => rfl
  | cons block blocks =>
    have hs (group : List Block) : segmentsText (group.map (Segment.statement ·.sql)) =
        (group.flatMap statement).flatMap String.toList := by
      induction group with
      | nil => rfl
      | cons block blocks ih =>
        rw [List.map_cons, List.flatMap_cons, List.flatMap_append, ← ih]
        simp [segmentsText, statement, Segment.text]
    have hl : (s!"-- Indexes for table: {block.table}").toList ++ ['\n'] =
        (s!"-- Indexes for table: {block.table}\n").toList := by simp [toString]
    have he : segmentsText [.commentary ""] = (["\n"] : List String).flatMap String.toList := rfl
    have ht : (Segment.commentary s!"-- Indexes for table: {block.table}").text.toList ++ ['\n'] =
        (s!"-- Indexes for table: {block.table}\n").toList := hl
    rw [groupSegments, indexGroup, segmentsText_cons, segmentsText_append, hs, he, ht]
    simp only [List.flatMap_cons, List.flatMap_append]

theorem segmentsText_flatMap {α : Type} (items : List α) {segments : α → List Segment} {pieces : α → List String}
    (h : ∀ item, segmentsText (segments item) = (pieces item).flatMap String.toList) :
    segmentsText (items.flatMap segments) = (items.flatMap pieces).flatMap String.toList := by
  induction items with
  | nil => rfl
  | cons item items ih =>
    rw [List.flatMap_cons, List.flatMap_cons, segmentsText_append, List.flatMap_append, h, ih]

theorem toList_text (run : Run) : (text run).toList = segmentsText (segments run) := by
  rw [text, String.toList_join, pieces, segments, tableSection, indexSection]
  simp only [segmentsText_append, List.flatMap_append, segmentsText_header, segmentsText_banner,
    segmentsText_flatMap _ segmentsText_table, segmentsText_flatMap _ segmentsText_group]

/-! ## Its statements -/

theorem statements_banner (title : String) : (bannerSegments title).filterMap Segment.statement? = [] := rfl

theorem statements_header (report : Report) : (headerSegments report).filterMap Segment.statement? = [] := by
  rw [headerSegments, skippedSegments]
  cases report.isPartial <;> rfl

theorem statements_tables (blocks : List Block) :
    (blocks.flatMap tableSegments).filterMap Segment.statement? = blocks.map (·.sql) := by
  induction blocks with
  | nil => rfl
  | cons block blocks ih =>
    rw [List.flatMap_cons, List.filterMap_append, ih, List.map_cons]
    rfl

theorem statements_group (group : List Block) :
    (groupSegments group).filterMap Segment.statement? = group.map (·.sql) := by
  cases group with
  | nil => rfl
  | cons block blocks =>
    have hs (group : List Block) :
        (group.map (Segment.statement ·.sql)).filterMap Segment.statement? = group.map (·.sql) := by
      rw [List.filterMap_map]
      exact congrFun List.filterMap_eq_map group
    have hc : (Segment.commentary s!"-- Indexes for table: {block.table}").statement? = none := rfl
    rw [groupSegments, List.filterMap_cons_none hc, List.filterMap_append, hs]
    exact List.append_nil _

theorem statements_groups (groups : List (List Block)) :
    (groups.flatMap groupSegments).filterMap Segment.statement? = groups.flatten.map (·.sql) := by
  induction groups with
  | nil => rfl
  | cons group groups ih =>
    rw [List.flatMap_cons, List.filterMap_append, ih, statements_group, List.flatten_cons, List.map_append]

theorem statements_segments (run : Run) :
    (segments run).filterMap Segment.statement? =
      (run.document.tableBlocks ++ run.document.indexBlocks).map (·.sql) := by
  rw [segments, List.filterMap_append, List.filterMap_append, List.filterMap_append, List.filterMap_append,
    statements_header, statements_banner, statements_tables, statements_banner, statements_groups, indexGroups,
    List.flatten_splitBy, List.map_append, List.append_nil, List.nil_append]
  rfl

/-! ## Its commentary -/

theorem isProper_banner {title : String} (h : IsHarmless title.toList) :
    ∀ segment ∈ bannerSegments title, segment.IsProper := by
  have he : (Segment.commentary "").IsProper := by decide
  have hr : (Segment.commentary rule).IsProper := by decide
  have ht : (Segment.commentary s!"-- {title}").IsProper :=
    (Segment.isProper_label "-- " title (by decide) (by decide)).2 h
  simp only [bannerSegments, List.forall_mem_cons]
  exact ⟨he, hr, ht, hr, by simp⟩

theorem isHarmless_tableTitle : IsHarmless "TABLE DEFINITIONS".toList := by decide

theorem isHarmless_indexTitle : IsHarmless "INDEX DEFINITIONS".toList := by decide

theorem isHarmless_toString (n : Nat) : IsHarmless (toString n).toList := by
  refine isHarmless_of_no_line_end fun c hm => ?_
  have hd := isDigit_toString n hm
  rw [Bool.eq_false_iff]
  intro hl
  simp only [Reader.isLineEnd, Bool.or_eq_true, beq_iff_eq] at hl
  rcases hl with rfl | rfl <;> contradiction

theorem isProper_skipped (report : Report) :
    (∀ segment ∈ skippedSegments report, segment.IsProper) ↔ IsHarmless (skippedNames report).toList := by
  unfold skippedSegments
  split
  · rw [List.forall_mem_singleton]
    exact Segment.isProper_label "-- Skipped Tables: " (skippedNames report) (by decide) (by decide)
  · next hp =>
    have hn : report.skipped = [] := by simpa [Report.isPartial] using hp
    rw [skippedNames, hn]
    exact iff_of_true (by simp) (by decide)

theorem isProper_header (report : Report) :
    (∀ segment ∈ headerSegments report, segment.IsProper) ↔
      IsHarmless report.database.toList ∧ IsHarmless (skippedNames report).toList := by
  have hd : (Segment.commentary s!"-- Generated from SQLite database at {report.database}").IsProper ↔
      IsHarmless report.database.toList :=
    Segment.isProper_label "-- Generated from SQLite database at " report.database (by decide) (by decide)
  have ht : (Segment.commentary s!"-- Total Tables: {report.totalTables}").IsProper :=
    (Segment.isProper_label "-- Total Tables: " (toString report.totalTables) (by decide) (by decide)).2
      (isHarmless_toString report.totalTables)
  have hf : ∀ segment ∈ [Segment.commentary "", .commentary "-- DROP SCHEMA public CASCADE;",
      .commentary "-- CREATE SCHEMA IF NOT EXISTS public;", .commentary ""], segment.IsProper := by decide
  have ho : (Segment.commentary "-- PostgreSQL Schema").IsProper := by decide
  rw [headerSegments, List.forall_mem_append, List.forall_mem_append, isProper_skipped, List.forall_mem_cons,
    List.forall_mem_cons, List.forall_mem_singleton, hd]
  rw [and_iff_left hf, and_iff_right ho, and_iff_left ht]

theorem isProper_tables (blocks : List Block) :
    (∀ segment ∈ blocks.flatMap tableSegments, segment.IsProper) ↔
      ∀ block ∈ blocks, IsHarmless block.table.toList := by
  induction blocks with
  | nil => simp
  | cons block blocks ih =>
    have hl : (Segment.commentary s!"-- Table: {block.table}").IsProper ↔ IsHarmless block.table.toList :=
      Segment.isProper_label "-- Table: " block.table (by decide) (by decide)
    have hs : (Segment.statement block.sql).IsProper := trivial
    rw [List.flatMap_cons, List.forall_mem_append, ih, tableSegments, List.forall_mem_cons,
      List.forall_mem_singleton, hl, and_iff_left hs, List.forall_mem_cons]

/-- The labels of groups bear names of tables whose indexes are in the groups. -/
theorem isProper_groups {groups : List (List Block)}
    (h : ∀ group ∈ groups, ∀ block ∈ group, IsHarmless block.table.toList) :
    ∀ segment ∈ groups.flatMap groupSegments, segment.IsProper := by
  intro segment hp
  obtain ⟨group, hg, hp⟩ := List.mem_flatMap.1 hp
  cases group with
  | nil => contradiction
  | cons block blocks =>
    have hl : (Segment.commentary s!"-- Indexes for table: {block.table}").IsProper ↔
        IsHarmless block.table.toList :=
      Segment.isProper_label "-- Indexes for table: " block.table (by decide) (by decide)
    rw [groupSegments, List.mem_cons, List.mem_append, List.mem_map, List.mem_singleton] at hp
    rcases hp with rfl | ⟨other, -, rfl⟩ | rfl
    · exact hl.2 (h _ hg block List.mem_cons_self)
    · trivial
    · decide

end Script

/-! ## Harmless names -/

/-- Whether every name that is written into a comment stays in it: the lines of the name but for the first are
blank or comments themselves. The names of the skipped tables are written as one text. -/
structure HarmlessNames (run : Run) : Prop where
  database : IsHarmless run.report.database.toList
  skipped : IsHarmless (Script.skippedNames run.report).toList
  tables : ∀ block ∈ run.document.blocks, IsHarmless block.table.toList

theorem Script.isProper_segments {run : Run}
    (h : ∀ block ∈ run.document.blocks, ∃ other ∈ run.document.tableBlocks, other.table = block.table) :
    (∀ segment ∈ segments run, segment.IsProper) ↔ HarmlessNames run := by
  have ht := isProper_banner isHarmless_tableTitle
  have hi := isProper_banner isHarmless_indexTitle
  have hm : ∀ group ∈ indexGroups run.document, ∀ block ∈ group, block ∈ run.document.blocks := by
    intro group hg block hb
    have hf : block ∈ (indexGroups run.document).flatten := List.mem_flatten.2 ⟨group, hg, hb⟩
    rw [indexGroups, List.flatten_splitBy] at hf
    exact (List.mem_filter.1 hf).1
  rw [segments, List.forall_mem_append, List.forall_mem_append, List.forall_mem_append, List.forall_mem_append,
    isProper_header, isProper_tables, and_iff_left ht, and_iff_left hi]
  constructor
  · rintro ⟨⟨⟨hd, hs⟩, hb⟩, -⟩
    refine ⟨hd, hs, fun block hm => ?_⟩
    obtain ⟨other, ho, e⟩ := h block hm
    exact e ▸ hb other ho
  · rintro ⟨hd, hs, hb⟩
    refine ⟨⟨⟨hd, hs⟩, fun block ho => hb block (List.mem_filter.1 ho).1⟩, ?_⟩
    exact isProper_groups fun group hg block hm' => hb block (hm group hg block hm')

instance (run : Run) : Decidable (HarmlessNames run) :=
  decidable_of_iff (IsHarmless run.report.database.toList ∧ IsHarmless (Script.skippedNames run.report).toList ∧
    ∀ block ∈ run.document.blocks, IsHarmless block.table.toList)
    ⟨fun h => ⟨h.1, h.2.1, h.2.2⟩, fun h => ⟨h.database, h.skipped, h.tables⟩⟩

namespace Source
variable {source : Source} {countRows : Bool} {run : Run}

theorem filterMap_segments (h : (source.run countRows).value = .ok run) :
    (Script.segments run).filterMap Segment.statement? = run.document.statements := by
  obtain ⟨names, -, rfl⟩ := exists_names_of_run h
  rw [Script.statements_segments, ← Run.blocks_ofEntries]
  rfl

theorem isStatement_segments (h : (source.run countRows).value = .ok run)
    (hd : ∀ table ∈ source.readableTables, ∀ text ∈ table.rawDefaults, IsClosedText text.toList) :
    ∀ segment ∈ Script.segments run, ∀ sql ∈ segment.statement?, IsStatement sql.toList := by
  intro segment hp sql he
  have hi : sql ∈ run.document.statements := filterMap_segments h ▸ List.mem_filterMap.2 ⟨segment, hp, he⟩
  obtain ⟨block, hb, rfl⟩ := List.mem_map.1 hi
  exact isStatement_of_mem_blocks h hd block hb

theorem isProper_segments (h : (source.run countRows).value = .ok run) :
    (∀ segment ∈ Script.segments run, segment.IsProper) ↔ HarmlessNames run := by
  obtain ⟨names, -, rfl⟩ := exists_names_of_run h
  exact Script.isProper_segments fun block hb => Run.exists_tableBlock _ _ _ hb

/-- **What a client executes from a script.** It reads the statements of the document from their own places,
and nothing else, exactly if the names in the comments are harmless. A client that sees no marks then reads the
same statements, whether or not it knows comments between slashes and stars. -/
theorem reads_script_iff (h : (source.run countRows).value = .ok run)
    (hd : ∀ table ∈ source.readableTables, ∀ text ∈ table.rawDefaults, IsClosedText text.toList) :
    (ReadsAsMarked false (Script.segments run) ↔ HarmlessNames run) ∧
      (HarmlessNames run → ∀ blocks, ∃ n, Reader.read id blocks (Script.text run).toList =
        { mode := .plain, current := [], statements := run.document.statements.map String.toList,
          comments := n }) := by
  have hs := isStatement_segments h hd
  refine ⟨(readsAsMarked_iff hs).trans (isProper_segments h), fun ha blocks => ?_⟩
  have hr := read_of_readsAsMarked (readsAsMarked_of_isProper hs ((isProper_segments h).2 ha) blocks)
  rw [filterMap_segments h] at hr
  rw [Script.toList_text]
  exact hr

theorem reads_script_iff_commented :
    (∀ table ∈ commented.readableTables, ∀ text ∈ table.rawDefaults, IsClosedText text.toList) ∧
      ∃ run, (commented.run false).value = .ok run ∧ HarmlessNames run ∧
        ReadsAsMarked false (Script.segments run) ∧
          ∃ n, Reader.read id true (Script.text run).toList =
            { mode := .plain, current := [], statements := run.document.statements.map String.toList,
              comments := n } := by
  have hd : ∀ table ∈ commented.readableTables, ∀ text ∈ table.rawDefaults, IsClosedText text.toList := by
    rw [readableTables_commented]
    decide
  have hn : HarmlessNames (Run.ofEntries "db" 1 [.read commentedTable none]) := by decide
  have hr := reads_script_iff run_commented hd
  exact ⟨hd, _, run_commented, hn, hr.1.2 hn, hr.2 hn true⟩

/-- A source with a table whose name has a second line. -/
def twoLined : Source where
  databaseName := "db"
  tableNames := .ok ["a\nDROP TABLE b;"]
  columns := fun _ => .ok [⟨0, "x", "INTEGER", false, none, 0⟩]
  foreignKeys := fun _ => .ok []
  indexes := fun _ => .ok []
  rowCount := fun _ => .ok 0

def twoLinedTable : Table where
  name := "a\nDROP TABLE b;"
  columns := [⟨0, "x", ⟨"INTEGER", none⟩, false, none, false⟩]
  foreignKeys := []
  indexes := []

theorem readTable_twoLined : (twoLined.readTable "a\nDROP TABLE b;").value = .ok twoLinedTable := by
  rw [twoLinedTable, ← DeclaredType.parse_integer]
  rfl

def twoLinedRun : Run :=
  .ofEntries "db" 1 [.read twoLinedTable none]

theorem run_twoLined : (twoLined.run false).value = .ok twoLinedRun := by
  have ho : twoLined.outcome false "a\nDROP TABLE b;" = .read twoLinedTable none := by
    rw [outcome, readTable_twoLined]
    rfl
  rw [run_value, twoLinedRun, ← ho]
  rfl

theorem isClosed_twoLined :
    ∀ table ∈ twoLined.readableTables, ∀ text ∈ table.rawDefaults, IsClosedText text.toList := by
  have e : twoLined.readableTables = [twoLinedTable] := by
    change [(twoLined.readTable "a\nDROP TABLE b;").value.toOption].filterMap id = _
    rw [readTable_twoLined]
    rfl
  rw [e]
  decide

theorem segments_twoLinedRun :
    Script.segments twoLinedRun =
      (Script.headerSegments twoLinedRun.report ++ Script.bannerSegments "TABLE DEFINITIONS") ++
        (.commentary "-- Table: a\nDROP TABLE b;" ::
          ([.statement twoLinedTable.createStatement] ++ Script.bannerSegments "INDEX DEFINITIONS")) := rfl

/-- Behind the comment the second line of the name is a statement of its own. -/
theorem run_label_twoLined (n : Nat) :
    Reader.run Prod.snd false ⟨.plain, [], [], n⟩ (Segment.commentary "-- Table: a\nDROP TABLE b;").marked =
      ⟨.plain, [], [mark false "DROP TABLE b;".toList], n + 1⟩ := by
  simp [Segment.marked, Segment.isStatement, Segment.text, mark, Reader.run, Reader.step, Reader.plainStep,
    Reader.comment?, Reader.mayOpen, Reader.push, Reader.isSpace, Reader.isLineEnd, Nesting.isQuote]

theorem read_twoLinedRun :
    ∃ n, Reader.read Prod.snd false ((Script.segments twoLinedRun).flatMap Segment.marked) =
      ⟨.plain, [], [mark false "DROP TABLE b;".toList, mark true twoLinedTable.createStatement.toList], n⟩ := by
  have hs := isStatement_segments run_twoLined isClosed_twoLined
  rw [segments_twoLinedRun, List.forall_mem_append, List.forall_mem_cons] at hs
  have hb : ∀ segment ∈ Script.headerSegments twoLinedRun.report ++ Script.bannerSegments "TABLE DEFINITIONS",
      segment.IsProper := by
    rw [List.forall_mem_append, Script.isProper_header]
    exact ⟨by decide, Script.isProper_banner Script.isHarmless_tableTitle⟩
  have ha : ∀ segment ∈ [.statement twoLinedTable.createStatement] ++ Script.bannerSegments "INDEX DEFINITIONS",
      segment.IsProper := by
    rw [List.forall_mem_append, List.forall_mem_singleton]
    exact ⟨trivial, Script.isProper_banner Script.isHarmless_indexTitle⟩
  -- The general theorem speaks for what stands before the label and behind it, but not for the label itself.
  obtain ⟨n, hn⟩ := (isSettled_segments false [] 0 hs.1).1 hb
  obtain ⟨m, hm⟩ := (isSettled_segments false [mark false "DROP TABLE b;".toList] (n + 1) hs.2.2).1 ha
  refine ⟨m, ?_⟩
  rw [Reader.read, Reader.start, segments_twoLinedRun, List.flatMap_append, Reader.run_append, hn,
    List.flatMap_cons, Reader.run_append]
  change Reader.run Prod.snd false (Reader.run Prod.snd false ⟨.plain, [], [], n⟩ _) _ = _
  rw [run_label_twoLined, hm]
  rfl

/-- **A name can add a statement to a script**: a client executes the second line of this one. -/
theorem reads_script_twoLined :
    (twoLined.run false).value = .ok twoLinedRun ∧
      (∀ table ∈ twoLined.readableTables, ∀ text ∈ table.rawDefaults, IsClosedText text.toList) ∧
      twoLinedRun.document.statements = [twoLinedTable.createStatement] ∧
      (Reader.read id false (Script.text twoLinedRun).toList).statements =
        ["DROP TABLE b;".toList, twoLinedTable.createStatement.toList] ∧
      (Reader.read id false (Script.text twoLinedRun).toList).statements ≠
        twoLinedRun.document.statements.map String.toList := by
  have hs : twoLinedRun.document.statements = [twoLinedTable.createStatement] := rfl
  have hr : (Reader.read id false (Script.text twoLinedRun).toList).statements =
      ["DROP TABLE b;".toList, twoLinedTable.createStatement.toList] := by
    obtain ⟨n, hn⟩ := read_twoLinedRun
    rw [Script.toList_text, read_text, hn]
    simp only [Reader.map, List.map_cons, List.map_nil, map_snd_mark]
  refine ⟨run_twoLined, isClosed_twoLined, hs, hr, fun e => ?_⟩
  rw [hr, hs] at e
  exact absurd (congrArg List.length e) (by decide)

end Source

end CatalogDdl
