import CatalogDdl.Proofs.Run.Indexes

/-! # Filters of indexes

A partial index covers the rows that its filter selects. The statements that create indexes have no filters.

* `TableSchema.Differ`: rows that a unique index over some members accepts. `Database.Keeps`: rows that a table accepts.
* `Database.partialIndexes`: the partial indexes of a table over columns alone.
* `Database.partialIndexes_iff`: a run leaves out the partial indexes exactly if all of them are over expressions.
-/

namespace CatalogDdl
set_option autoImplicit false
open Sql

/-! ## Collations -/

theorem listOrder_eq_iff {xs ys : List Nat} : listOrder xs ys = .eq ↔ xs = ys := by
  induction xs generalizing ys with
  | nil => cases ys <;> simp [listOrder]
  | cons x xs ih =>
    cases ys with
    | nil => simp [listOrder]
    | cons y ys =>
      rw [listOrder, List.cons.injEq, ← ih]
      split
      · simp; omega
      · split
        · simp; omega
        · have he : x = y := by omega
          simp [he]

namespace Value
variable {a b : Value}

/-- What has the same characters is alike under every collation. -/
theorem order_of_binary (h : order .binary a b = .eq) (collation : Collation) : order collation a b = .eq := by
  cases a <;> cases b <;> try exact h
  next cs ds =>
    have he : cs.map Char.toNat = ds.map Char.toNat := listOrder_eq_iff.1 h
    obtain rfl := List.map_injective_iff.2 (fun _ _ => Char.toNat_inj.1) he
    exact listOrder_eq_iff.2 rfl

theorem isAlike_of_binary (h : isAlike .blob .binary a b = true) (collation : Collation) :
    isAlike .blob collation a b = true := by
  have ho : orderUnder? .blob .binary a b = some .eq := by simpa [isAlike] using h
  have hc : orderUnder? .blob collation a b = some .eq := by
    cases a <;> cases b <;> first
      | contradiction
      | exact congrArg some (order_of_binary (Option.some.inj ho) collation)
  simp [isAlike, hc]

end Value

/-! ## Rows -/

namespace TableSchema
variable (table : TableSchema)

/-- Whether two rows are alike in a column of an index. Null is like nothing, and an expression is not looked at. -/
def agree (member : IndexColumn) (a b : StoredRow) : Bool :=
  match member.name.bind (table.scope a.values), member.name.bind (table.scope b.values) with
  | some own, some other => Value.isAlike .blob (member.collation.getD own.collation) own.value other.value
  | _, _ => false

/-- Rows of which no two agree in all members of an index. -/
def Differ (members : List IndexColumn) (rows : List StoredRow) : Prop :=
  rows.Pairwise fun a b => ∃ member ∈ members, table.agree member a b = false

instance (members : List IndexColumn) (rows : List StoredRow) : Decidable (table.Differ members rows) :=
  inferInstanceAs (Decidable (List.Pairwise _ _))

/-- Whether an index covers a row: its filter, if it has one, is true there. -/
def covers (index : IndexDefinition) (row : StoredRow) : Bool :=
  index.filter.all fun text =>
    ((Expression.ofTokens (tokens text)).evaluate (table.scope row.values)).truth? == some true

end TableSchema

/-- The columns of a declared index. The reader of the statement knows one way to compare texts, by their characters. -/
def Sql.IndexDeclaration.members (index : IndexDeclaration) : List IndexColumn :=
  index.columns.map (⟨some ·, some .binary⟩)

namespace Database
variable (database : Database)

/-- Rows that the unique indexes of a table accept. -/
structure Keeps (table : TableSchema) (rows : List StoredRow) : Prop where
  constraints : ∀ constraint ∈ table.indexedConstraints,
    table.Differ ((table.keptColumns constraint).map (⟨some ·, none⟩)) rows
  created : ∀ index ∈ database.indexes, sameName index.table table.name = true → index.unique = true →
    table.Differ (index.columns table) (rows.filter (table.covers index))

instance (table : TableSchema) (rows : List StoredRow) : Decidable (database.Keeps table rows) :=
  decidable_of_iff
    ((∀ constraint ∈ table.indexedConstraints,
        table.Differ ((table.keptColumns constraint).map (⟨some ·, none⟩)) rows) ∧
      ∀ index ∈ database.indexes, sameName index.table table.name = true → index.unique = true →
        table.Differ (index.columns table) (rows.filter (table.covers index)))
    ⟨fun h => ⟨h.1, h.2⟩, fun h => ⟨h.constraints, h.created⟩⟩

/-- The indexes of a table over columns alone that do not cover all of its rows. -/
def partialIndexes (table : TableSchema) : List IndexDefinition :=
  database.indexes.filter fun index =>
    sameName index.table table.name && index.filter.isSome && !((index.columns table).map (·.name)).contains none

/-- What a database makes sure of when an index is created: its name is new, in any case, and none of its own names. -/
structure NamesIndexes : Prop where
  distinct : (database.indexes.map (·.name.toLower)).Nodup
  foreign : ∀ index ∈ database.indexes, isInternal index.name = false

end Database

/-! ## Statements against indexes -/

namespace TableSchema
variable {table : TableSchema} {members : List IndexColumn} {rows : List StoredRow} {declared : IndexDeclaration}

theorem agree_of_binary {name : Option String} {a b : StoredRow} (h : table.agree ⟨name, some .binary⟩ a b = true)
    (collation : Option Collation) : table.agree ⟨name, collation⟩ a b = true := by
  rw [agree] at h ⊢
  cases ha : name.bind (table.scope a.values) with
  | none => simp [ha] at h
  | some own =>
    cases hb : name.bind (table.scope b.values) with
    | none => simp [ha, hb] at h
    | some other =>
      simp only [ha, hb] at h ⊢
      exact Value.isAlike_of_binary h _

theorem differ_members (hn : members.map (·.name) = declared.columns.map some) (h : table.Differ members rows) :
    table.Differ declared.members rows := by
  refine h.imp ?_
  rintro a b ⟨⟨_, collation⟩, hm, ha⟩
  have hs := List.mem_map_of_mem (f := IndexColumn.name) hm
  rw [hn] at hs
  obtain ⟨name, hc, rfl⟩ := List.mem_map.1 hs
  refine ⟨⟨some name, some .binary⟩, List.mem_map_of_mem hc, Bool.eq_false_iff.2 fun hk => ?_⟩
  rw [agree_of_binary hk collation] at ha
  contradiction

end TableSchema

namespace Database
variable {database : Database} {table : TableSchema} {row : IndexRow} {rows : List StoredRow}
  {declared : IndexDeclaration}

theorem mem_partialIndexes {index : IndexDefinition} :
    index ∈ database.partialIndexes table ↔ index ∈ database.indexes ∧ sameName index.table table.name = true ∧
      index.filter.isSome = true ∧ none ∉ (table.createdIndexRow index).columns := by
  rw [partialIndexes, List.mem_filter, TableSchema.createdIndexRow]
  simp only [Bool.and_eq_true, Bool.not_eq_true', List.contains_eq_mem, decide_eq_false_iff_not, and_assoc]

theorem mem_indexRows :
    row ∈ database.indexRows table ↔ row ∈ table.constraintIndexes ∨
      ∃ index ∈ database.indexes, sameName index.table table.name = true ∧ table.createdIndexRow index = row := by
  rw [indexRows, List.mem_reverse, List.mem_append, List.mem_map]
  simp only [List.mem_filter, and_assoc]

/-- A statement for an index accepts all rows that the table accepts, where no unique index over columns is partial. -/
theorem Keeps.differ (h : database.Keeps table rows) (hm : row ∈ database.indexRows table)
    (hc : row.columns = declared.columns.map some) (hu : row.unique = true)
    (hp : ∀ index ∈ database.partialIndexes table, index.unique = false) : table.Differ declared.members rows := by
  rcases mem_indexRows.1 hm with hr | ⟨index, hi, hs, rfl⟩
  · obtain ⟨⟨constraint, number⟩, hk, rfl⟩ := List.mem_map.1 hr
    have hk : constraint ∈ table.indexedConstraints := (List.mem_zipIdx' hk).2 ▸ List.getElem_mem _
    refine TableSchema.differ_members ?_ (h.constraints constraint hk)
    rw [List.map_map, ← hc]
    rfl
  · have hf : index.filter = none := by
      refine Option.not_isSome_iff_eq_none.1 fun hf => ?_
      have hn : none ∉ (table.createdIndexRow index).columns := by simp [hc]
      exact Bool.noConfusion (hu.symm.trans (hp index (mem_partialIndexes.2 ⟨hi, hs, hf, hn⟩)))
    have hd := h.created index hi hs hu
    rw [List.filter_eq_self.2 fun row _ => by simp [TableSchema.covers, hf]] at hd
    exact TableSchema.differ_members hc hd

/-! ## Names -/

theorem isInternal_of_prefix {name : String} (h : automaticStem.toList <+: name.toList) : isInternal name = true := by
  have hs : "sqlite_".toList <+: automaticStem.toList.map Char.toLower := by decide
  exact List.isPrefixOf_iff_prefix.2 (hs.trans (h.map _))

theorem isInternal_of_constraintIndexes (h : row ∈ table.constraintIndexes) : isInternal row.name = true := by
  obtain ⟨⟨constraint, number⟩, -, rfl⟩ := List.mem_map.1 h
  refine isInternal_of_prefix ⟨(s!"{table.name}_{number + 1}").toList, ?_⟩
  simp [toString]

theorem NamesIndexes.eq_of_name (h : database.NamesIndexes) {index other : IndexDefinition}
    (hi : index ∈ database.indexes) (ho : other ∈ database.indexes) (he : index.name = other.name) : index = other := by
  exact List.inj_on_of_nodup_map h.distinct hi ho (congrArg String.toLower he)

end Database

/-! ## Runs -/

namespace Source
variable {source : Source} {names : List String} {declared : IndexDeclaration}

/-- Whether a declared index is one that the source reports of its table, and no primary key implies it. -/
def Reports (source : Source) (declared : IndexDeclaration) : Prop :=
  ∃ row ∈ source.indexRows declared.table, row.isImplicit = false ∧ row.columns = declared.columns.map some ∧
    row.name = declared.name ∧ row.unique = declared.unique

theorem mem_indexesOf :
    declared ∈ source.indexesOf (orderedBy id names) ↔
      declared.table ∈ names ∧ (∃ table, (source.readTable declared.table).value = .ok table) ∧
        source.Reports declared := by
  have ho : ∀ {name : String} {table : Table}, (source.readTable name).value = .ok table → ∀ index : Index,
      index ∈ table.ownIndexes ↔ ∃ row ∈ source.indexRows name, row.isImplicit = false ∧
        row.columns = index.columns.map some ∧ index = ⟨row.name, row.unique, index.columns, row.isImplicit⟩ := by
    intro name table hr index
    obtain ⟨columns, keys, indexes, ⟨-, -, hx⟩, -, rfl⟩ := readTable_eq_ok_iff.1 hr
    rw [Table.mem_ownIndexes, indexRows, hx]
    rfl
  rw [indexesOf, List.mem_flatMap]
  constructor
  · rintro ⟨table, ht, hd⟩
    obtain ⟨index, hi, rfl⟩ := List.mem_map.1 hd
    obtain ⟨hm, hr⟩ := readTable_of_mem ht
    obtain ⟨row, hw, hn, hc, he⟩ := (ho hr index).1 hi
    refine ⟨mem_orderedBy.1 hm, ⟨table, hr⟩, row, hw, hn, hc, ?_, ?_⟩
    · exact (congrArg Index.name he).symm
    · exact (congrArg Index.unique he).symm
  · rintro ⟨hm, ⟨table, hr⟩, row, hw, hn, hc, he, hu⟩
    have hi := (ho hr ⟨row.name, row.unique, declared.columns, row.isImplicit⟩).2 ⟨row, hw, hn, hc, rfl⟩
    refine ⟨table, mem_tablesOf.2 ⟨_, mem_orderedBy.2 hm, hr⟩, List.mem_map.2 ⟨_, hi, ?_⟩⟩
    rw [Index.declaration, name_of_readTable hr, he, hu]

end Source

namespace Database
variable {database : Database} {name : String} {declared : IndexDeclaration}

/-- What a database reports of the indexes of a table, it reports of a table that it has. -/
theorem exists_table_of_reports (h : (database.source name).Reports declared) :
    ∃ stored, database.table? (nameIn declared.table) = some stored ∧
      ∃ row ∈ database.indexRows stored.schema, row.isImplicit = false ∧ row.columns = declared.columns.map some ∧
        row.name = declared.name ∧ row.unique = declared.unique := by
  obtain ⟨row, hw, hr⟩ := h
  have hw : row ∈ database.rowsAbout declared.table database.indexRows := hw
  rw [rowsAbout] at hw
  cases ht : database.table? (nameIn declared.table) with
  | none => simp [ht] at hw
  | some stored =>
    rw [ht] at hw
    exact ⟨stored, rfl, row, hw, hr⟩

theorem reports_of_createdIndexRow {listed : String} {stored : StoredTable} {index : IndexDefinition}
    {columns : List String} (ht : database.table? (nameIn listed) = some stored) (hi : index ∈ database.indexes)
    (hs : sameName index.table stored.schema.name = true) (hf : isInternal index.name = false)
    (hc : (stored.schema.createdIndexRow index).columns = columns.map some) :
    (database.source name).Reports ⟨index.unique, index.name, listed, columns⟩ := by
  refine ⟨stored.schema.createdIndexRow index, ?_, ?_, hc, rfl, rfl⟩
  · change _ ∈ database.rowsAbout listed database.indexRows
    rw [rowsAbout, ht]
    exact mem_indexRows.2 (.inr ⟨index, hi, hs, rfl⟩)
  · refine Bool.eq_false_iff.2 fun hm => ?_
    have hi := isInternal_of_prefix (IndexRow.isImplicit_iff.1 hm).1
    exact Bool.noConfusion (hf.symm.trans hi)

/-- The tables of a run that a database looks up under the names that it lists. -/
def Translates (database : Database) (run : Run) (listed : String) (stored : StoredTable) : Prop :=
  listed ∈ run.report.tables.map (·.tableName) ∧ database.table? (nameIn listed) = some stored

section
variable {run : Run} {countRows : Bool}

/-- The indexes that a run creates for a database. -/
def declaredIndexes (database : Database) (name : String) : List IndexDeclaration :=
  (database.source name).indexesOf (orderedBy id database.tableNames)

theorem mem_declaredIndexes (hr : ((database.source name).run countRows).value = .ok run) :
    declared ∈ database.declaredIndexes name ↔
      declared.table ∈ run.report.tables.map (·.tableName) ∧ (database.source name).Reports declared := by
  rw [declaredIndexes, Source.mem_indexesOf, Source.mem_tableNames_of_run hr rfl, and_assoc]

theorem not_mem_declaredIndexes_iff (h : database.NamesIndexes)
    (hr : ((database.source name).run countRows).value = .ok run) :
    (∀ index ∈ database.indexes, index.filter.isSome = true →
        index.name ∉ (database.declaredIndexes name).map (·.name)) ↔
      ∀ listed stored, database.Translates run listed stored → database.partialIndexes stored.schema = [] := by
  constructor
  · intro hp listed stored ht
    refine List.eq_nil_iff_forall_not_mem.2 fun index hx => ?_
    obtain ⟨hi, hs, hf, hc⟩ := mem_partialIndexes.1 hx
    obtain ⟨columns, hc⟩ := exists_map_some hc
    have hd := (mem_declaredIndexes hr).2 ⟨ht.1, reports_of_createdIndexRow ht.2 hi hs (h.foreign index hi) hc⟩
    exact hp index hi hf (List.mem_map_of_mem hd)
  · intro hp index hi hf hm
    obtain ⟨declared, hd, he⟩ := List.mem_map.1 hm
    obtain ⟨hl, hs⟩ := (mem_declaredIndexes hr).1 hd
    obtain ⟨stored, ht, row, hw, -, hc, hn, -⟩ := exists_table_of_reports hs
    -- The row of that name is not of a constraint, so it is the one of the partial index itself.
    rcases mem_indexRows.1 hw with hw | ⟨other, ho, hs, rfl⟩
    · have hi := h.foreign index hi
      rw [← he, ← hn, isInternal_of_constraintIndexes hw] at hi
      contradiction
    · obtain rfl := h.eq_of_name ho hi (hn.trans he)
      have hx := mem_partialIndexes.2 ⟨hi, hs, hf, by simp [hc]⟩
      rw [hp declared.table stored ⟨hl, ht⟩] at hx
      contradiction

theorem Keeps.differ_declared {listed : String} {stored : StoredTable} {rows : List StoredRow}
    (hk : database.Keeps stored.schema rows) (hr : ((database.source name).run countRows).value = .ok run)
    (ht : database.Translates run listed stored)
    (hp : ∀ index ∈ database.partialIndexes stored.schema, index.unique = false)
    (hd : declared ∈ database.declaredIndexes name) (he : declared.table = listed) (hu : declared.unique = true) :
    stored.schema.Differ declared.members rows := by
  subst he
  obtain ⟨found, hf, row, hw, -, hc, -, hn⟩ := exists_table_of_reports ((mem_declaredIndexes hr).1 hd).2
  obtain rfl := Option.some.inj (ht.2.symm.trans hf)
  exact hk.differ hw hc (hn.trans hu) hp

end

/-- **A run creates no partial index exactly if none is over columns alone.** Where no unique index over columns is
partial, the rows that a table accepts are accepted by every unique index that the run creates for it. -/
theorem partialIndexes_iff (h : database.NamesIndexes) (name : String) (countRows : Bool) :
    ∃ run declared, ((database.source name).run countRows).value = .ok run ∧ run.DeclaresIndexes declared ∧
      ((∀ index ∈ database.indexes, index.filter.isSome = true → index.name ∉ declared.map (·.name)) ↔
        ∀ listed stored, database.Translates run listed stored → database.partialIndexes stored.schema = []) ∧
      ∀ listed stored, database.Translates run listed stored →
        (∀ index ∈ database.partialIndexes stored.schema, index.unique = false) →
          ∀ rows, database.Keeps stored.schema rows →
            ∀ index ∈ declared, index.table = listed → index.unique = true →
              stored.schema.Differ index.members rows := by
  have hr := (database.source name).run_value countRows
  exact ⟨_, database.declaredIndexes name, hr, Source.declaresIndexes_of_run hr rfl, not_mem_declaredIndexes_iff h hr,
    fun _ _ ht hp _ hk _ hd he hu => hk.differ_declared hr ht hp hd he hu⟩

/-- A table of texts that can be marked as deleted. -/
def listing : TableDefinition :=
  let column (name type : String) : ColumnDefinition := ⟨name, type, false, false, false, false, none, none, none⟩
  ⟨"t", [column "a" "TEXT", column "deleted" "INTEGER"], none, [], [], false⟩

/-- Two rows, of which the second one is marked. -/
def listingRows (a b : String) : List StoredRow :=
  [⟨1, [.ofString a, .integer 0]⟩, ⟨2, [.ofString b, .integer 1]⟩]

theorem table?_listing (h : database.tables = [⟨listing.schema, []⟩]) :
    database.table? (nameIn "t") = some ⟨listing.schema, []⟩ := by
  rw [table?, h]
  exact List.find?_cons_of_pos (by decide +kernel)

theorem stored_listing (h : database.tables = [⟨listing.schema, []⟩]) {run : Run} {listed : String}
    {stored : StoredTable} (ht : database.Translates run listed stored) : stored = ⟨listing.schema, []⟩ :=
  List.mem_singleton.1 (h ▸ List.mem_of_find?_eq_some ht.2)

/-- A database with a unique index over a column, and a partial one over an expression. -/
def guarded : Database :=
  .ofChanges [.createTable listing, .createIndex ⟨"u", "t", true, [.column "a"], none⟩,
    .createIndex ⟨"p", "t", true, [.expression "lower(a)"], some "deleted = 0"⟩]

theorem partialIndexes_iff_guarded :
    guarded.NamesIndexes ∧ ∃ run declared, ((guarded.source "test.db").run false).value = .ok run ∧
      run.DeclaresIndexes declared ∧ "p" ∉ declared.map (·.name) ∧
      guarded.Translates run "t" ⟨listing.schema, []⟩ ∧ guarded.Keeps listing.schema (listingRows "x" "y") ∧
      ∀ index ∈ declared, index.table = "t" → index.unique = true →
        listing.schema.Differ index.members (listingRows "x" "y") := by
  have hn : guarded.NamesIndexes := ⟨by decide +kernel, by decide +kernel⟩
  have hp : guarded.partialIndexes listing.schema = [] := by decide +kernel
  have hk : guarded.Keeps listing.schema (listingRows "x" "y") := by decide +kernel
  have he : guarded.tables = [⟨listing.schema, []⟩] := rfl
  have hv := (guarded.source "test.db").run_value false
  obtain ⟨run, declared, hr, hd, hl, hrows⟩ := partialIndexes_iff hn "test.db" false
  have ht : guarded.Translates run "t" ⟨listing.schema, []⟩ := by
    obtain rfl := Except.ok.inj (hv.symm.trans hr)
    exact ⟨by decide +kernel, table?_listing he⟩
  refine ⟨hn, run, declared, hr, hd, hl.2 (fun listed stored h => ?_) _ (List.mem_cons_of_mem _ List.mem_cons_self) rfl,
    ht, hk, hrows "t" _ ht (fun index hi => ?_) _ hk⟩
  · rw [stored_listing he h, hp]
  · rw [hp] at hi
    contradiction

/-- A database with a unique index of the rows that are not deleted. -/
def filtered : Database :=
  .ofChanges [.createTable listing, .createIndex ⟨"u", "t", true, [.column "a"], some "deleted = 0"⟩]

def unfiltered : IndexDeclaration :=
  ⟨true, "u", "t", ["a"]⟩

/-- **The statement for a partial index covers all rows**, and does not accept some that the table accepts. -/
theorem not_differ_filtered :
    filtered.NamesIndexes ∧ ∃ run, ((filtered.source "test.db").run false).value = .ok run ∧
      filtered.Translates run "t" ⟨listing.schema, []⟩ ∧
      filtered.indexes = [⟨"u", "t", true, [.column "a"], some "deleted = 0"⟩] ∧
      run.document.indexBlocks.map (IndexDeclaration.read ·.sql) = [some unfiltered] ∧
      filtered.Keeps listing.schema (listingRows "x" "x") ∧
      ¬ listing.schema.Differ unfiltered.members (listingRows "x" "x") := by
  have hn : filtered.NamesIndexes := ⟨by decide +kernel, by decide +kernel⟩
  exact ⟨hn, _, (filtered.source "test.db").run_value false, ⟨by decide +kernel, table?_listing rfl⟩, rfl,
    by decide +kernel, by decide +kernel, by decide +kernel⟩

end Database

end CatalogDdl
