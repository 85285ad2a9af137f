import CatalogDdl.Database.Inspection
import CatalogDdl.Proofs.Run.Accounting
import CatalogDdl.Proofs.Run.Declarations

/-! # Where references lead

A foreign key names a table, and it may name columns of it. A database that finds them does not look at the case of
letters, while quoted names in a statement are taken to the letter.

* `Source.Finds`: whether a database finds what the foreign keys name.
* `Source.SpellsAsListed`: whether the foreign keys name it as it is listed and reported.
* `Source.resolves_iff`: exactly then every reference of a document leads to columns that the document declares.
-/

namespace CatalogDdl
set_option autoImplicit false
open Sql

/-- Names are the same where they differ only in the case of ASCII letters. -/
theorem sameName_iff {a b : String} :
    sameName a b = true ↔ a.toList.map Char.toLower = b.toList.map Char.toLower := by
  have hl (name : String) : name.toLower.toList = name.toList.map Char.toLower := String.toList_map
  rw [sameName, beq_iff_eq, ← String.toList_inj, hl, hl]

namespace Source

/-- Whether a database finds the table of every row of a foreign key among some names, and the column of the row, if
there is one, in that table. -/
def Finds (source : Source) (names : List String) : Prop :=
  ∀ child ∈ names, ∀ keys, source.foreignKeys child = .ok keys → ∀ row ∈ keys,
    ∃ parent ∈ names, sameName row.referencedTable parent = true ∧
      ∃ columns, source.columns parent = .ok columns ∧
        ∀ name ∈ row.referencedColumn, ∃ column ∈ columns, sameName name column.name = true

/-- Whether a key of these rows names a table as it is listed, and columns, if each row names one, as they are
reported. -/
def Spells (source : Source) (names : List String) (first : ForeignKeyRow) (rest : List ForeignKeyRow) : Prop :=
  first.referencedTable ∈ names ∧
    ((∀ row ∈ first :: rest, row.referencedColumn ≠ none) →
      ∀ columns, source.columns first.referencedTable = .ok columns →
        ∀ row ∈ first :: rest, ∀ name ∈ row.referencedColumn, name ∈ columns.map (·.name))

def SpellsAsListed (source : Source) (names : List String) : Prop :=
  ∀ child ∈ names, ∀ keys, source.foreignKeys child = .ok keys →
    ∀ id first rest, ForeignKey.rowsOf id keys = first :: rest → source.Spells names first rest

variable {source : Source} {countRows : Bool} {run : Run} {names : List String}

theorem exists_readTable (hn : source.tableNames = .ok names) (h : (source.run countRows).value = .ok run)
    (hs : run.report.skipped = []) : ∀ name ∈ names, ∃ table, (source.readTable name).value = .ok table := by
  intro name hm
  cases ht : (source.readTable name).value with
  | ok table => exact ⟨table, rfl⟩
  | error cause => exact absurd (skips_of_readTable ht) ((skipped_eq_nil_iff countRows hn h).1 hs name hm cause)

theorem mem_references {table : Table} {reference : ReferenceDeclaration} {name : String}
    (h : (source.readTable name).value = .ok table) :
    reference ∈ table.declaration.references ↔
      ∃ keys id first rest, source.foreignKeys name = .ok keys ∧ ForeignKey.rowsOf id keys = first :: rest ∧
        reference = (ForeignKey.ofGroup first rest).value.declaration := by
  obtain ⟨columns, keys, indexes, ⟨-, hk, -⟩, -, rfl⟩ := readTable_eq_ok_iff.1 h
  have hm : reference ∈ (Table.described name columns keys indexes).declaration.references ↔
      ∃ key ∈ (ForeignKey.ofRows keys).value, key.declaration = reference := List.mem_map
  rw [hm, hk]
  simp only [ForeignKey.mem_ofRows_iff]
  constructor
  · rintro ⟨_, ⟨id, first, rest, e, rfl⟩, rfl⟩
    exact ⟨keys, id, first, rest, rfl, e, rfl⟩
  · rintro ⟨_, id, first, rest, he, e, rfl⟩
    obtain rfl := Except.ok.inj he
    exact ⟨_, ⟨id, first, rest, e, rfl⟩, rfl⟩

/-- A reference leads to declared columns if the rows of its key name a listed table, and columns of it. -/
theorem hasColumns_ofGroup {first : ForeignKeyRow} {rest : List ForeignKeyRow}
    (hr : ∀ name ∈ names, ∃ table, (source.readTable name).value = .ok table) :
    HasColumns ((source.tablesOf (orderedBy id names)).map Table.declaration)
        (ForeignKey.ofGroup first rest).value.declaration.table
        (ForeignKey.ofGroup first rest).value.declaration.referenced ↔
      source.Spells names first rest := by
  have ht : (ForeignKey.ofGroup first rest).value.declaration.table = first.referencedTable := rfl
  have hc : (ForeignKey.ofGroup first rest).value.declaration.referenced =
      ForeignKey.referencedColumnsOf (first :: rest) := rfl
  rw [hasColumns_declarations, ht, hc, Spells]
  refine and_congr_right fun hn => ?_
  obtain ⟨table, hp⟩ := hr _ hn
  obtain ⟨columns, keys, indexes, ⟨hk, -, -⟩, -, rfl⟩ := readTable_eq_ok_iff.1 hp
  constructor
  · rintro ⟨_, hp', hm⟩ hall _ hk' row hw name he
    obtain rfl := Except.ok.inj (hp.symm.trans hp')
    obtain rfl := Except.ok.inj (hk.symm.trans hk')
    exact Table.mem_columnNames.1 (hm name (ForeignKey.mem_referencedColumnsOf.2 ⟨hall, row, hw, he⟩))
  · intro hall
    refine ⟨_, hp, fun name hm => Table.mem_columnNames.2 ?_⟩
    obtain ⟨hs, row, hw, he⟩ := ForeignKey.mem_referencedColumnsOf.1 hm
    exact hall hs columns hk row hw name he

/-- **References lead to what a document declares exactly if the foreign keys spell it as it is listed.** -/
theorem resolves_iff (h : (source.run countRows).value = .ok run) (hs : run.report.skipped = []) :
    ∃ names declarations, source.tableNames = .ok names ∧ run.Declares declarations ∧
      ((∀ table ∈ source.readableTables, ∀ text ∈ table.rawDefaults, IsSelfContained text.toList) →
        run.document.tableBlocks.map (TableDeclaration.read ·.sql) = declarations.map some) ∧
      ((∀ declaration ∈ declarations, ∀ reference ∈ declaration.references,
          HasColumns declarations reference.table reference.referenced) ↔
        source.SpellsAsListed names) := by
  obtain ⟨names, hn, -⟩ := exists_names_of_run h
  have hr := exists_readTable hn h hs
  refine ⟨names, _, hn, declares_of_run h hn, read_tableBlocks h hn, ?_⟩
  constructor
  · intro hall child hm keys hk key first rest e
    obtain ⟨table, ht⟩ := hr child hm
    have hd : table.declaration ∈ (source.tablesOf (orderedBy id names)).map Table.declaration :=
      List.mem_map_of_mem (mem_tablesOf.2 ⟨child, mem_orderedBy.2 hm, ht⟩)
    exact (hasColumns_ofGroup hr).1 (hall _ hd _ ((mem_references ht).2 ⟨keys, key, first, rest, hk, e, rfl⟩))
  · intro hall declaration hd reference hf
    obtain ⟨table, ht, rfl⟩ := List.mem_map.1 hd
    obtain ⟨child, hm, hc⟩ := mem_tablesOf.1 ht
    obtain ⟨keys, id, first, rest, hk, e, rfl⟩ := (mem_references hc).1 hf
    exact (hasColumns_ofGroup hr).2 (hall child (mem_orderedBy.1 hm) keys hk id first rest e)

/-- A database with a table `Teams`, and another one that refers to it by this table and column. -/
def referring (table column : String) : Source :=
  Database.source (.ofChanges [
    .createTable ⟨"Teams", [⟨"id", "INTEGER", true, false, false, false, none, none, none⟩], none, [], [], false⟩,
    .createTable ⟨"drivers", [⟨"team", "INTEGER", false, false, false, false, none, none,
      some ⟨table, some [column], none, none⟩⟩], none, [], [], false⟩]) "test.db"

def referringRow (table column : String) : ForeignKeyRow :=
  ⟨0, 0, table, "team", some column, some "NO ACTION", some "NO ACTION"⟩

/-- What that database reports. -/
structure ReportsReference (table column : String) : Prop where
  names : (referring table column).tableNames = .ok ["Teams", "drivers"]
  columns : (referring table column).columns "Teams" = .ok [⟨0, "id", "INTEGER", false, none, 1⟩]
  noKeys : (referring table column).foreignKeys "Teams" = .ok []
  keys : (referring table column).foreignKeys "drivers" = .ok [referringRow table column]

theorem ReportsReference.eq_row {table column child : String} (h : ReportsReference table column)
    (hc : child ∈ ["Teams", "drivers"]) {keys : List ForeignKeyRow}
    (hk : (referring table column).foreignKeys child = .ok keys) : ∀ row ∈ keys, row = referringRow table column := by
  intro row hr
  rcases List.mem_pair.1 hc with rfl | rfl
  · obtain rfl := Except.ok.inj (h.noKeys.symm.trans hk)
    contradiction
  · obtain rfl := Except.ok.inj (h.keys.symm.trans hk)
    exact List.mem_singleton.1 hr

theorem reports_spelled : ReportsReference "Teams" "id" where
  names := toOption_eq_some_iff.1 (by decide +kernel)
  columns := toOption_eq_some_iff.1 (by decide +kernel)
  noKeys := toOption_eq_some_iff.1 (by decide +kernel)
  keys := toOption_eq_some_iff.1 (by decide +kernel)

theorem skipped_spelled :
    (Run.ofEntries "test.db" 2 ((orderedBy id ["Teams", "drivers"]).map
      ((referring "Teams" "id").outcome false))).report.skipped = [] := by
  decide +kernel

theorem resolves_iff_spelled :
    ∃ run, ((referring "Teams" "id").run false).value = .ok run ∧ run.report.skipped = [] ∧
      ∃ declarations, run.Declares declarations ∧ ∀ declaration ∈ declarations,
        ∀ reference ∈ declaration.references, HasColumns declarations reference.table reference.referenced := by
  have hr := (referring "Teams" "id").run_value false
  rw [reports_spelled.names] at hr
  obtain ⟨names, declarations, hn, hd, -, hi⟩ := resolves_iff hr skipped_spelled
  obtain rfl := Except.ok.inj (reports_spelled.names.symm.trans hn)
  refine ⟨_, hr, skipped_spelled, declarations, hd, hi.2 fun child hm keys hk key first rest e => ?_⟩
  have hw : ∀ row ∈ first :: rest, row = referringRow "Teams" "id" := fun row hw =>
    reports_spelled.eq_row hm hk row (ForeignKey.mem_rowsOf.1 (e ▸ hw)).1
  obtain rfl := hw first List.mem_cons_self
  refine ⟨by decide, fun _ columns hc row hr name hn => ?_⟩
  obtain rfl := Except.ok.inj (reports_spelled.columns.symm.trans hc)
  obtain rfl := hw row hr
  obtain rfl := Option.some.inj hn
  decide

theorem reports_misspelt : ReportsReference "teams" "ID" where
  names := toOption_eq_some_iff.1 (by decide +kernel)
  columns := toOption_eq_some_iff.1 (by decide +kernel)
  noKeys := toOption_eq_some_iff.1 (by decide +kernel)
  keys := toOption_eq_some_iff.1 (by decide +kernel)

theorem finds_misspelt : (referring "teams" "ID").Finds ["Teams", "drivers"] := by
  intro child hm keys hk row hr
  have ht : sameName "teams" "Teams" = true := sameName_iff.2 (by decide)
  have hn : sameName "ID" "id" = true := sameName_iff.2 (by decide)
  obtain rfl := reports_misspelt.eq_row hm hk row hr
  refine ⟨"Teams", List.mem_cons_self, ht, _, reports_misspelt.columns, fun name hc => ?_⟩
  obtain rfl : "ID" = name := Option.some.inj hc
  exact ⟨_, List.mem_singleton_self _, hn⟩

/-- The run over that database where the reference is in other cases. -/
def misspelt : Run where
  document := ⟨[
    .createTable "Teams" "CREATE TABLE IF NOT EXISTS \"Teams\" (\"id\" INTEGER PRIMARY KEY);",
    .createTable "drivers" ("CREATE TABLE IF NOT EXISTS drivers (\"team\" INTEGER, " ++
      "FOREIGN KEY (\"team\") REFERENCES \"teams\"(\"ID\"));")]⟩
  report := ⟨"test.db", 2, [⟨"Teams", 1, 0, 0, none⟩, ⟨"drivers", 1, 1, 0, none⟩], []⟩

def misspeltDeclarations : List TableDeclaration :=
  [⟨"Teams", [⟨"id", "INTEGER", true, false, none⟩], none, []⟩,
    ⟨"drivers", [⟨"team", "INTEGER", false, false, none⟩], none, [⟨["team"], "teams", ["ID"], none, none⟩]⟩]

theorem run_misspelt : ((referring "teams" "ID").run false).value = .ok misspelt :=
  toOption_eq_some_iff.1 (by decide +kernel)

/-- **A reference in other cases leads nowhere**: the database finds the table and the column, and the document
declares neither of these names. -/
theorem not_resolves_misspelt :
    ((referring "teams" "ID").run false).value = .ok misspelt ∧ misspelt.report.skipped = [] ∧
      (referring "teams" "ID").tableNames = .ok ["Teams", "drivers"] ∧
      (referring "teams" "ID").Finds ["Teams", "drivers"] ∧
      misspelt.document.tableBlocks.map (TableDeclaration.read ·.sql) = misspeltDeclarations.map some ∧
      ¬ ∀ declaration ∈ misspeltDeclarations, ∀ reference ∈ declaration.references,
        HasColumns misspeltDeclarations reference.table reference.referenced :=
  ⟨run_misspelt, rfl, reports_misspelt.names, finds_misspelt, by decide +kernel, by decide +kernel⟩

end Source

end CatalogDdl
