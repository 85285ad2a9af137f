import Mathlib.Data.List.Dedup
import Mathlib.Data.List.SplitBy
import CatalogDdl.Output.Script
import CatalogDdl.Proofs.Output.Delivery
import CatalogDdl.Proofs.Run.Declarations
import CatalogDdl.Proofs.Text.ByteOrder

/-! # Groups of a script

A script puts the indexes of each table under one label. Grouping joins neighbours only, so this rests on the order in
which a run reads its tables.

* `splitBy_eq_map_filter`: where keys ascend, joining neighbours puts together all items of a key.
* `Script.Group`: a label with the statements under it. `Script.layout`: a script of some groups.
* `Source.IsGrouped`: groups that hold the indexes of a run, with a label for each table that has any.
-/

namespace CatalogDdl
set_option autoImplicit false

/-! ## Neighbours -/

section
variable {α : Type} {key : α → String} {items : List α} {keys : List String}

/-- The items of the least key come first. -/
theorem filter_append_filter_ne {k : String} (ha : items.Pairwise fun a b => key a ≤ key b)
    (hk : ∀ item ∈ items, k ≤ key item) :
    items.filter (key · = k) ++ items.filter (key · ≠ k) = items := by
  induction items with
  | nil => rfl
  | cons item rest ih =>
    obtain ⟨hi, ha⟩ := List.pairwise_cons.1 ha
    obtain ⟨hl, hk⟩ := List.forall_mem_cons.1 hk
    by_cases he : key item = k
    · rw [List.filter_cons_of_pos (by simpa using he), List.filter_cons_of_neg (by simpa using he), List.cons_append,
        ih ha hk]
    · -- Behind a greater key there is no item of the least one.
      have hn : ∀ other ∈ item :: rest, key other ≠ k := by
        refine List.forall_mem_cons.2 ⟨he, fun other ho e => he ?_⟩
        exact Std.le_antisymm (e ▸ hi other ho) hl
      rw [List.filter_eq_nil_iff.2 fun other ho => by simpa using hn other ho,
        List.filter_eq_self.2 fun other ho => by simpa using hn other ho, List.nil_append]

/-- Items whose keys ascend are the items of one key after those of another. -/
theorem flatMap_filter_keys (hk : keys.Pairwise (· < ·)) (ha : items.Pairwise fun a b => key a ≤ key b)
    (hm : ∀ item ∈ items, key item ∈ keys) :
    (keys.flatMap fun k => items.filter (key · = k)) = items := by
  induction keys generalizing items with
  | nil => exact (List.eq_nil_iff_forall_not_mem.2 fun item hi => List.not_mem_nil (hm item hi)).symm
  | cons k keys ih =>
    obtain ⟨hl, hk⟩ := List.pairwise_cons.1 hk
    have hr : (keys.flatMap fun other => (items.filter (key · ≠ k)).filter (key · = other)) =
        items.filter (key · ≠ k) := by
      refine ih hk (ha.filter _) fun item hi => ?_
      obtain ⟨hi, hn⟩ := List.mem_filter.1 hi
      exact (List.mem_cons.1 (hm item hi)).resolve_left (by simpa using hn)
    have he : ∀ other ∈ keys, (items.filter (key · ≠ k)).filter (key · = other) = items.filter (key · = other) := by
      intro other ho
      have hne : other ≠ k := fun e => Std.lt_irrefl (e ▸ hl other ho)
      rw [List.filter_filter]
      refine List.filter_congr fun item _ => ?_
      by_cases e : key item = other <;> simp [e, hne]
    have hf : ∀ item ∈ items, k ≤ key item := by
      intro item hi
      rcases List.mem_cons.1 (hm item hi) with e | ho
      · exact e ▸ Std.le_refl _
      · exact Std.le_of_lt (hl _ ho)
    rw [List.flatMap_cons, ← List.flatMap_congr he, hr, filter_append_filter_ne ha hf]

theorem pairwise_lt_dedup (ha : keys.Pairwise (· ≤ ·)) : keys.dedup.Pairwise (· < ·) :=
  ((ha.sublist keys.dedup_sublist).and keys.nodup_dedup).imp fun h => Std.lt_of_le_of_ne h.1 h.2

/-- **Where keys ascend, joining neighbours of one key puts together all items of the key.** -/
theorem splitBy_eq_map_filter (ha : items.Pairwise fun a b => key a ≤ key b) :
    (items.splitBy fun a b => key a == key b) =
      (items.map key).dedup.map fun k => items.filter (key · = k) := by
  have hk : (items.map key).dedup.Pairwise (· < ·) := pairwise_lt_dedup (List.pairwise_map.2 ha)
  have hne : ∀ k ∈ (items.map key).dedup, items.filter (key · = k) ≠ [] := by
    intro k hm he
    obtain ⟨item, hi, e⟩ := List.mem_map.1 (List.mem_dedup.1 hm)
    exact List.filter_eq_nil_iff.1 he item hi (by simpa using e)
  have hf : ((items.map key).dedup.map fun k => items.filter (key · = k)).flatten = items := by
    rw [← List.flatMap_def]
    exact flatMap_filter_keys hk ha fun item hi => List.mem_dedup.2 (List.mem_map_of_mem hi)
  have hc : ∀ {k : String} {item : α}, item ∈ items.filter (key · = k) → key item = k := by
    intro k item hi
    simpa using (List.mem_filter.1 hi).2
  conv_lhs => rw [← hf]
  refine List.splitBy_flatten (fun hn => ?_) (fun group hg => ?_) ?_
  · obtain ⟨k, hm, e⟩ := List.mem_map.1 hn
    exact hne k hm e
  · obtain ⟨k, -, rfl⟩ := List.mem_map.1 hg
    refine (List.pairwise_of_forall_mem_list fun a hm b ho => ?_).isChain
    rw [hc hm, hc ho, beq_self_eq_true]
  · rw [List.isChain_map]
    refine (hk.imp_of_mem fun hm ho hl => ?_).isChain
    refine ⟨hne _ hm, hne _ ho, ?_⟩
    rw [hc (List.getLast_mem _), hc (List.head_mem _)]
    exact beq_eq_false_iff_ne.2 fun e => Std.lt_irrefl (e ▸ hl)

end

/-! ## Scripts -/

namespace Script

/-- Statements under a label. -/
structure Group where
  label : String
  blocks : List Block
deriving DecidableEq, Repr

def Group.text (group : Group) : String :=
  s!"-- Indexes for table: {group.label}\n" ++ String.join (group.blocks.map (·.sql ++ "\n")) ++ "\n"

def tableText (block : Block) : String :=
  s!"-- Table: {block.table}\n" ++ block.sql ++ "\n"

/-- The text of a script: its tables, each under its label, and some groups of indexes. -/
def layout (run : Run) (groups : List Group) : String :=
  String.join (header run.report) ++ String.join (banner "TABLE DEFINITIONS") ++
    String.join (run.document.tableBlocks.map tableText) ++ String.join (banner "INDEX DEFINITIONS") ++
      String.join (groups.map Group.text)

/-- The index blocks of a document by table. -/
def groups (document : Document) : List Group :=
  (document.indexBlocks.map (·.table)).dedup.map fun label => ⟨label, document.indexBlocks.filter (·.table = label)⟩

variable {document : Document} {group : Group}

theorem label_groups : (groups document).map (·.label) = (document.indexBlocks.map (·.table)).dedup := by
  rw [groups, List.map_map]
  exact List.map_id _

theorem table_of_mem_groups (h : group ∈ groups document) : ∀ block ∈ group.blocks, block.table = group.label := by
  obtain ⟨label, -, rfl⟩ := List.mem_map.1 h
  exact fun block hb => by simpa using (List.mem_filter.1 hb).2

theorem ne_nil_of_mem_groups (h : group ∈ groups document) : group.blocks ≠ [] := by
  obtain ⟨label, hl, rfl⟩ := List.mem_map.1 h
  obtain ⟨block, hb, rfl⟩ := List.mem_map.1 (List.mem_dedup.1 hl)
  exact List.ne_nil_of_mem (List.mem_filter.2 ⟨hb, decide_eq_true rfl⟩)

theorem join_flatMap {α : Type} {items : List α} {pieces : α → List String} {text : α → String}
    (h : ∀ item ∈ items, String.join (pieces item) = text item) :
    String.join (items.flatMap pieces) = String.join (items.map text) := by
  induction items with
  | nil => rfl
  | cons item items ih =>
    obtain ⟨he, h⟩ := List.forall_mem_cons.1 h
    rw [List.flatMap_cons, String.join_append, he, ih h, List.map_cons, String.join_cons]

theorem join_statement (block : Block) : String.join (statement block) = block.sql ++ "\n" := by
  rw [statement, String.join_cons, String.join_cons, String.join_nil, String.append_empty]

theorem join_tableSection (document : Document) :
    String.join (tableSection document) = String.join (document.tableBlocks.map tableText) := by
  refine join_flatMap fun block _ => ?_
  rw [String.join_cons, join_statement, ← String.append_assoc]
  rfl

theorem join_indexGroup (h : group ∈ groups document) : String.join (indexGroup group.blocks) = group.text := by
  obtain ⟨block, blocks, e⟩ := List.exists_cons_of_ne_nil (ne_nil_of_mem_groups h)
  have ht := table_of_mem_groups h block (e ▸ List.mem_cons_self)
  have hg : indexGroup group.blocks =
      s!"-- Indexes for table: {group.label}\n" :: (group.blocks.flatMap statement ++ ["\n"]) := by
    rw [e, indexGroup, ht]
  have hs : String.join (group.blocks.flatMap statement) = String.join (group.blocks.map (·.sql ++ "\n")) :=
    join_flatMap fun block _ => join_statement block
  have hn : String.join ["\n"] = "\n" := by
    rw [String.join_cons, String.join_nil, String.append_empty]
  rw [hg, String.join_cons, String.join_append, hs, hn, ← String.append_assoc]
  rfl

variable (ha : document.indexBlocks.Pairwise fun a b => a.table ≤ b.table)
include ha

theorem indexGroups_eq : indexGroups document = (groups document).map (·.blocks) := by
  rw [indexGroups, splitBy_eq_map_filter ha, groups, List.map_map]
  rfl

theorem blocks_groups : (groups document).flatMap (·.blocks) = document.indexBlocks := by
  rw [List.flatMap_def, ← indexGroups_eq ha, indexGroups, List.flatten_splitBy]

theorem join_indexSection : String.join (indexSection document) = String.join ((groups document).map Group.text) := by
  rw [indexSection, indexGroups_eq ha, List.flatMap_map]
  exact join_flatMap fun group hg => join_indexGroup hg

end Script

/-! ## Runs -/

namespace Source
variable {source : Source} {countRows : Bool} {run : Run} {names : List String}

/-- Index blocks come table by table, in the order of the names. -/
theorem indexBlocks_ascend (h : (source.run countRows).value = .ok run) :
    run.document.indexBlocks.Pairwise fun a b => a.table ≤ b.table := by
  obtain ⟨names, hn, -⟩ := exists_names_of_run h
  have ht : ((source.tablesOf (orderedBy id names)).map (·.name)).Pairwise (· ≤ ·) := by
    rw [map_name_tablesOf]
    exact (pairwise_orderedBy id names).filter _
  have hb : ∀ (table : Table) (block : Block), block ∈ table.ownIndexes.map (fun index =>
      .createIndex table.name index.name (index.createStatement table.name)) → block.table = table.name := by
    intro table block hb
    obtain ⟨index, -, rfl⟩ := List.mem_map.1 hb
    rfl
  rw [(blocks_of_run h hn).2, List.pairwise_flatMap]
  refine ⟨fun table _ => ?_, (List.pairwise_map.1 ht).imp fun hl a hm b ho => ?_⟩
  · exact List.pairwise_of_forall_mem_list fun a hm b ho => hb table a hm ▸ hb table b ho ▸ Std.le_refl _
  · rwa [hb _ a hm, hb _ b ho]

theorem mem_table_indexBlocks (h : (source.run countRows).value = .ok run) (hn : source.tableNames = .ok names)
    {name : String} :
    name ∈ run.document.indexBlocks.map (·.table) ↔
      name ∈ names ∧ ∃ table, (source.readTable name).value = .ok table ∧ table.ownIndexes ≠ [] := by
  rw [(blocks_of_run h hn).2]
  constructor
  · intro hm
    obtain ⟨block, hb, rfl⟩ := List.mem_map.1 hm
    obtain ⟨table, ht, hb⟩ := List.mem_flatMap.1 hb
    obtain ⟨index, hi, rfl⟩ := List.mem_map.1 hb
    obtain ⟨hm, hr⟩ := readTable_of_mem ht
    exact ⟨mem_orderedBy.1 hm, table, hr, List.ne_nil_of_mem hi⟩
  · rintro ⟨hm, table, hr, ho⟩
    obtain rfl := name_of_readTable hr
    obtain ⟨index, hi⟩ := List.exists_mem_of_ne_nil _ ho
    have ht : table ∈ source.tablesOf (orderedBy id names) := mem_tablesOf.2 ⟨_, mem_orderedBy.2 hm, hr⟩
    exact List.mem_map.2 ⟨_, List.mem_flatMap.2 ⟨table, ht, List.mem_map_of_mem hi⟩, rfl⟩

/-- How groups hold the indexes of a run. -/
structure IsGrouped (source : Source) (names : List String) (run : Run) (groups : List Script.Group) : Prop where
  /-- No label comes twice. -/
  ascend : (groups.map (·.label)).Pairwise fun a b => Text.encoded a < Text.encoded b
  labels : ∀ label, label ∈ groups.map (·.label) ↔
    label ∈ run.report.tables.map (·.tableName) ∧ ∃ block ∈ run.document.indexBlocks, block.table = label
  /-- The tables with labels are listed, can be read and have indexes that need statements of their own. -/
  listed : ∀ label, label ∈ groups.map (·.label) ↔
    label ∈ names ∧ ∃ table, (source.readTable label).value = .ok table ∧ table.ownIndexes ≠ []
  own : ∀ group ∈ groups, group.blocks ≠ [] ∧ ∀ block ∈ group.blocks, block.table = group.label
  conserved : groups.flatMap (·.blocks) = run.document.indexBlocks

theorem isGrouped_groups (h : (source.run countRows).value = .ok run) (hn : source.tableNames = .ok names) :
    source.IsGrouped names run (Script.groups run.document) where
  ascend := by
    rw [Script.label_groups]
    exact (pairwise_lt_dedup (List.pairwise_map.2 (indexBlocks_ascend h))).imp Text.encoded_lt_encoded
  labels := by
    intro label
    have ht : label ∈ run.document.indexBlocks.map (·.table) → label ∈ run.report.tables.map (·.tableName) := by
      intro hm
      obtain ⟨hm, table, hr, -⟩ := (mem_table_indexBlocks h hn).1 hm
      exact (mem_tableNames_of_run h hn).2 ⟨hm, table, hr⟩
    rw [Script.label_groups, List.mem_dedup, ← List.mem_map]
    exact ⟨fun hm => ⟨ht hm, hm⟩, And.right⟩
  listed := by
    intro label
    rw [Script.label_groups, List.mem_dedup, mem_table_indexBlocks h hn]
  own := fun group hg => ⟨Script.ne_nil_of_mem_groups hg, Script.table_of_mem_groups hg⟩
  conserved := Script.blocks_groups (indexBlocks_ascend h)

theorem text_eq_layout (h : (source.run countRows).value = .ok run) :
    Script.text run = Script.layout run (Script.groups run.document) := by
  rw [Script.text, Script.pieces, Script.layout, String.join_append, String.join_append, String.join_append,
    String.join_append, Script.join_tableSection, Script.join_indexSection (indexBlocks_ascend h)]

/-- **A script has one group of indexes for each table that has any.** Tables stand in it in the order in which the
document creates them, and whatever device takes the whole script has received exactly this. -/
theorem groups_script (h : (source.run countRows).value = .ok run) :
    ∃ names groups, source.tableNames = .ok names ∧ source.IsGrouped names run groups ∧
      run.document.tableBlocks.map (·.table) = run.report.tables.map (·.tableName) ∧
      Script.text run = Script.layout run groups ∧
      ∀ device : Device, (device.deliverScript run).2 = .ok () →
        (device.deliverScript run).1.received.toList = Text.encoded (Script.layout run groups) := by
  obtain ⟨names, hn, -⟩ := exists_names_of_run h
  have hl := text_eq_layout h
  refine ⟨names, _, hn, isGrouped_groups h hn, ?_, hl, fun device hd => ?_⟩
  · rw [tableNames_of_run h hn, (blocks_of_run h hn).1, List.map_map]
    rfl
  · have hc : (device.deliver (Script.pieces run)).complete = true := by
      by_contra hc
      rw [Device.deliverScript] at hd
      simp [hc] at hd
    rw [← hl]
    exact (Device.received_deliver hc).1

/-- A source that lists a table twice. Of the two tables before the last one, `b` has the index of its primary key only,
and `c` cannot be read. -/
def interleaved : Source where
  databaseName := "db"
  tableNames := .ok ["d", "a", "c", "b", "a"]
  columns := fun name => .ok (if name = "c" then [] else [⟨0, "x", "INT", false, none, 0⟩])
  foreignKeys := fun _ => .ok []
  indexes := fun name => .ok [⟨if name = "b" then "sqlite_autoindex_b_1" else "i" ++ name, true, none, [some "x"]⟩]
  rowCount := fun _ => .ok 0

theorem groups_script_interleaved :
    ∃ run groups, (interleaved.run false).value = .ok run ∧
      interleaved.IsGrouped ["d", "a", "c", "b", "a"] run groups ∧ Script.text run = Script.layout run groups ∧
      run.document.tableBlocks.map (·.table) = ["a", "a", "b", "d"] ∧
      run.document.indexBlocks.map (·.table) = ["a", "a", "d"] ∧
      ∀ label ∈ groups.map (·.label), label ∈ ["a", "d"] := by
  have hr := interleaved.run_value false
  obtain ⟨run, hv⟩ : ∃ run, (interleaved.run false).value = .ok run := ⟨_, hr⟩
  obtain ⟨names, groups, hn, hg, -, hl, -⟩ := groups_script hv
  obtain rfl : ["d", "a", "c", "b", "a"] = names := Except.ok.inj hn
  have hb : run.document.tableBlocks.map (·.table) = ["a", "a", "b", "d"] ∧
      run.document.indexBlocks.map (·.table) = ["a", "a", "d"] := by
    obtain rfl := Except.ok.inj (hr.symm.trans hv)
    decide +kernel
  refine ⟨run, groups, hv, hg, hl, hb.1, hb.2, fun label hm => ?_⟩
  obtain ⟨-, hi⟩ := (hg.labels label).1 hm
  rw [← List.mem_map, hb.2] at hi
  simpa using hi

end Source

end CatalogDdl
