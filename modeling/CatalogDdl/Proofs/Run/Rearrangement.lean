import CatalogDdl.Proofs.Run.Entries

/-! # The order of answers

A run does not depend on the order in which a source reports what has no order: the names of the tables, the
columns of a table, and the rows of its foreign keys as far as the keys stay in their order.

* `SameAnswer`: answers that fail alike, or that are related.
* `ForeignKey.Rearranged`, `Source.Rearranged`: rows, and sources, that report the same in another order.
* `Source.run_rearranged`: the runs over such sources write the same statements.
-/

namespace CatalogDdl
set_option autoImplicit false

/-- Answers to the same question: the same failure, or two that are related. -/
inductive SameAnswer {α : Type} (related : α → α → Prop) : Except Failure α → Except Failure α → Prop
  | ok {a b : α} (h : related a b) : SameAnswer related (.ok a) (.ok b)
  | error (cause : Failure) : SameAnswer related (.error cause) (.error cause)

theorem SameAnswer.symm {α : Type} {related : α → α → Prop} {x y : Except Failure α} (h : SameAnswer related x y)
    (hs : ∀ a b, related a b → related b a) : SameAnswer related y x := by
  cases h with
  | ok h => exact .ok (hs _ _ h)
  | error cause => exact .error cause

theorem SameAnswer.exists_ok {α : Type} {related : α → α → Prop} {x y : Except Failure α} {a : α}
    (h : SameAnswer related x y) (hx : x = .ok a) : ∃ b, y = .ok b ∧ related a b := by
  cases h with
  | ok h =>
    obtain rfl := Except.ok.inj hx
    exact ⟨_, rfl, h⟩
  | error cause => contradiction

theorem SameAnswer.eq_error {α : Type} {related : α → α → Prop} {x y : Except Failure α} {cause : Failure}
    (h : SameAnswer related x y) (hx : x = .error cause) : y = .error cause := by
  cases h with
  | ok h => contradiction
  | error cause => exact hx

theorem SameAnswer.map {α β : Type} {related : α → α → Prop} {results : β → β → Prop} {x y : Except Failure α}
    {f g : α → β} (h : SameAnswer related x y) (hm : ∀ a b, related a b → results (f a) (g b)) :
    SameAnswer results (x.map f) (y.map g) := by
  cases h with
  | ok h => exact .ok (hm _ _ h)
  | error cause => exact .error cause

/-- The same rows of foreign keys in another order. No two rows have the same place in the same key, and the keys
appear in the same order. -/
structure ForeignKey.Rearranged (rows others : List ForeignKeyRow) : Prop where
  perm : rows.Perm others
  distinct : (rows.map fun row => (row.id, row.seq)).Nodup
  ids : (rows.map (·.id)).eraseDups = (others.map (·.id)).eraseDups

/-- Sources that report the same in another order. -/
structure Source.Rearranged (source other : Source) : Prop where
  databaseName : source.databaseName = other.databaseName
  tableNames : SameAnswer List.Perm source.tableNames other.tableNames
  columns : ∀ table, SameAnswer List.Perm (source.columns table) (other.columns table)
  foreignKeys : ∀ table, SameAnswer ForeignKey.Rearranged (source.foreignKeys table) (other.foreignKeys table)
  indexes : ∀ table, source.indexes table = other.indexes table
  rowCount : ∀ table, source.rowCount table = other.rowCount table

/-- Runs that write the same statements, and report the same but for the reasons for which tables are skipped. -/
structure Run.SameStatements (run other : Run) : Prop where
  document : run.document = other.document
  database : run.report.database = other.report.database
  totalTables : run.report.totalTables = other.report.totalTables
  tables : run.report.tables = other.report.tables
  skipped : run.report.skipped.map (·.tableName) = other.report.skipped.map (·.tableName)

/-! ## Rows -/

namespace ForeignKey
variable {rows others : List ForeignKeyRow}

theorem Rearranged.symm (h : Rearranged rows others) : Rearranged others rows :=
  ⟨h.perm.symm, (h.perm.map _).nodup_iff.1 h.distinct, h.ids.symm⟩

theorem Rearranged.rowsOf (h : Rearranged rows others) (id : Int) : rowsOf id rows = rowsOf id others := by
  refine orderedBy_congr (h.perm.filter _) fun a ha b hb e => ?_
  obtain ⟨ha, hi⟩ := List.mem_filter.1 ha
  obtain ⟨hb, hj⟩ := List.mem_filter.1 hb
  have hid : a.id = b.id := (eq_of_beq hi).trans (eq_of_beq hj).symm
  exact List.inj_on_of_nodup_map h.distinct ha hb (Prod.ext hid e)

theorem Rearranged.ofRows (h : Rearranged rows others) : (ofRows rows).value = (ofRows others).value := by
  rw [value_ofRows, value_ofRows, groups, groups, h.ids]
  congr 1
  exact List.map_congr_left fun id _ => h.rowsOf id

end ForeignKey

theorem IsConsistent.rearranged {columns otherColumns : List ColumnRow} {keys otherKeys : List ForeignKeyRow}
    (h : IsConsistent columns keys) (hc : columns.Perm otherColumns) (hk : keys.Perm otherKeys) :
    IsConsistent otherColumns otherKeys where
  hasColumns := fun e => h.hasColumns (e ▸ hc).eq_nil
  isNumbered := h.isNumbered.perm hc
  localColumns := fun key hm => (hc.map _).mem_iff.1 (h.localColumns key (hk.mem_iff.2 hm))

/-! ## Tables -/

namespace Source
variable {source other : Source}

theorem Rearranged.symm (h : Rearranged source other) : Rearranged other source where
  databaseName := h.databaseName.symm
  tableNames := h.tableNames.symm fun _ _ => List.Perm.symm
  columns := fun table => (h.columns table).symm fun _ _ => List.Perm.symm
  foreignKeys := fun table => (h.foreignKeys table).symm fun _ _ => ForeignKey.Rearranged.symm
  indexes := fun table => (h.indexes table).symm
  rowCount := fun table => (h.rowCount table).symm

theorem Rearranged.readTable (h : Rearranged source other) {name : String} {table : Table}
    (hr : (source.readTable name).value = .ok table) : (other.readTable name).value = .ok table := by
  obtain ⟨columns, keys, indexes, ⟨hc, hk, hi⟩, hn, rfl⟩ := readTable_eq_ok_iff.1 hr
  obtain ⟨otherColumns, hc', hp⟩ := (h.columns name).exists_ok hc
  obtain ⟨otherKeys, hk', hq⟩ := (h.foreignKeys name).exists_ok hk
  refine readTable_eq_ok_iff.2 ⟨otherColumns, otherKeys, indexes, ⟨hc', hk', (h.indexes name).symm.trans hi⟩,
    hn.rearranged hp hq.perm, ?_⟩
  rw [Table.described, Table.described, orderedBy_congr hp hn.isNumbered.eq_of_ordinal_eq, hq.ofRows]

/-- The two outcomes of a table differ at most in the reason for which it is skipped. -/
theorem Rearranged.outcome (h : Rearranged source other) (countRows : Bool) (name : String) {α : Type}
    (part : Entry → α) (hp : ∀ cause others, part (.skipped name cause) = part (.skipped name others)) :
    part (source.outcome countRows name) = part (other.outcome countRows name) := by
  have hc : source.rowsOf countRows name = other.rowsOf countRows name := by
    rw [rowsOf, rowsOf, h.rowCount name]
  rw [Source.outcome, Source.outcome, hc]
  cases hr : (source.readTable name).value with
  | ok table => rw [h.readTable hr]
  | error cause =>
    cases ho : (other.readTable name).value with
    | ok table =>
      rw [h.symm.readTable ho] at hr
      contradiction
    | error others => exact hp cause others

/-! ## Runs -/

theorem Rearranged.sameStatements (h : Rearranged source other) (countRows : Bool) (names : List String)
    (database : String) (listed : Nat) :
    (Run.ofEntries database listed (names.map (source.outcome countRows))).SameStatements
      (Run.ofEntries database listed (names.map (other.outcome countRows))) where
  document := Run.document_congr database listed
    (fun name => h.outcome countRows name Entry.tableBlocks fun _ _ => rfl)
    (fun name => h.outcome countRows name Entry.indexBlocks fun _ _ => rfl) names
  database := rfl
  totalTables := rfl
  tables := by
    simp only [Run.tables_ofEntries, List.filterMap_map]
    exact List.filterMap_congr fun name _ => h.outcome countRows name Entry.summary? fun _ _ => rfl
  skipped := by
    simp only [Run.skipped_ofEntries, List.filterMap_map, List.map_filterMap]
    exact List.filterMap_congr fun name _ =>
      h.outcome countRows name (fun entry => entry.skipped?.map (·.tableName)) fun _ _ => rfl

/-- **A run does not depend on the order of what has no order.** -/
theorem run_rearranged (h : Rearranged source other) (countRows : Bool) :
    SameAnswer Run.SameStatements (source.run countRows).value (other.run countRows).value := by
  rw [run_value, run_value]
  refine h.tableNames.map fun names others hp => ?_
  have e : orderedBy id names = orderedBy id others := orderedBy_congr hp fun _ _ _ _ e => e
  rw [e, h.databaseName, hp.length_eq]
  exact h.sameStatements countRows _ _ _

/-- A source with two tables, one of which has two columns of the same ordinal. -/
def arranged : Source where
  databaseName := "db"
  tableNames := .ok ["b", "a"]
  columns := fun name => .ok [⟨if name = "a" then 1 else 0, "x", "TEXT", false, none, 1⟩,
    ⟨1, "y", "TEXT", false, none, 2⟩]
  foreignKeys := fun _ => .ok [⟨3, 0, "b", "x", none, none, none⟩, ⟨3, 1, "b", "y", none, none, none⟩,
    ⟨2, 0, "c", "y", some "z", none, none⟩]
  indexes := fun _ => .ok []
  rowCount := fun _ => .ok 0

/-- The same source, which reports everything in another order. -/
def disarranged : Source :=
  { arranged with
    tableNames := .ok ["a", "b"]
    columns := fun name => .ok [⟨1, "y", "TEXT", false, none, 2⟩,
      ⟨if name = "a" then 1 else 0, "x", "TEXT", false, none, 1⟩]
    foreignKeys := fun _ => .ok [⟨3, 1, "b", "y", none, none, none⟩, ⟨2, 0, "c", "y", some "z", none, none⟩,
      ⟨3, 0, "b", "x", none, none, none⟩] }

theorem rearranged_disarranged : Rearranged arranged disarranged where
  databaseName := rfl
  tableNames := .ok (.swap _ _ _)
  columns := fun _ => .ok (.swap _ _ _)
  foreignKeys := fun _ => .ok ⟨by decide, by decide, by decide⟩
  indexes := fun _ => rfl
  rowCount := fun _ => rfl

theorem run_rearranged_disarranged :
    Rearranged arranged disarranged ∧
      SameAnswer Run.SameStatements (arranged.run true).value (disarranged.run true).value ∧
      ∃ run, (arranged.run true).value = .ok run ∧ run.report.tables.map (·.tableName) = ["b"] ∧
        run.report.skipped.map (·.tableName) = ["a"] :=
  ⟨rearranged_disarranged, run_rearranged rearranged_disarranged true, _, run_value .., rfl, rfl⟩

end Source

end CatalogDdl
