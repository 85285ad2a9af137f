import CatalogDdl.Proofs.Run.Statements

/-! # References without columns

A foreign key may name a table and none of its columns. It then refers to the primary key of the table, place by
place. In a source the places are the positions of the columns in the key; in statements they are the places in the
clause that declares the key.

* `Source.Refers`: a foreign key of a source that refers to a primary key of several columns in this way.
* `Pairs`, `KeepsPairs`: the columns that a source pairs by such a key, and statements that pair the same ones.
* `KeyInColumnOrder`: whether the key has its columns in their order in the table.
* `Source.keepsPairs_iff`: exactly then the statements of a run pair the columns that the source pairs.
-/

namespace CatalogDdl
set_option autoImplicit false
open Sql

/-- The columns of a primary key that a clause declares. -/
def Sql.Clause.keyColumns? : Clause → Option (List String)
  | primaryKey columns => some columns
  | _ => none

/-- The columns of the primary key, in ordinal order. -/
def memberRows (columns : List ColumnRow) : List ColumnRow :=
  (orderedBy (·.ordinal) columns).filter fun row => decide (0 < row.keyPosition)

def memberNames (columns : List ColumnRow) : List String :=
  (memberRows columns).map (·.name)

/-- The local columns of a foreign key, in the order of the `seq`s. -/
def localNames (id : Int) (keys : List ForeignKeyRow) : List String :=
  (ForeignKey.rowsOf id keys).map (·.localColumn)

/-- Whether the positions in the primary key ascend with the ordinals. -/
def KeyInColumnOrder (columns : List ColumnRow) : Prop :=
  ∀ a ∈ columns, ∀ b ∈ columns, 0 < a.keyPosition → 0 < b.keyPosition → a.ordinal < b.ordinal →
    a.keyPosition < b.keyPosition

instance (columns : List ColumnRow) : Decidable (KeyInColumnOrder columns) :=
  inferInstanceAs (Decidable (∀ a ∈ columns, ∀ b ∈ columns, _))

/-- Whether the primary key has `width` columns, at the positions from 1 on. -/
def HasKeyOf (width : Nat) (columns : List ColumnRow) : Prop :=
  ((columns.filter fun row => decide (0 < row.keyPosition)).map (·.keyPosition)).Perm
    ((List.range width).map fun place : Nat => (place : Int) + 1)

instance (width : Nat) (columns : List ColumnRow) : Decidable (HasKeyOf width columns) :=
  inferInstanceAs (Decidable (List.Perm _ _))

/-- Whether a source pairs two columns by the foreign key `id`: the local column that comes at `place` in the order
of the `seq`s, and the column at this place of the primary key, where the first position is 1. -/
def Pairs (columns : List ColumnRow) (keys : List ForeignKeyRow) (id : Int) (place : Nat) (pair : String × String) :
    Prop :=
  (∃ key, (ForeignKey.rowsOf id keys)[place]? = some key ∧ key.localColumn = pair.1) ∧
    ∃ column ∈ columns, column.keyPosition = place + 1 ∧ column.name = pair.2

/-- Whether local columns and key columns are paired, place by place, as the source pairs them. -/
def KeepsPairs (columns : List ColumnRow) (keys : List ForeignKeyRow) (id : Int) (locals members : List String) : Prop :=
  locals.length = members.length ∧
    ∀ place pair, (locals.zip members)[place]? = some pair → Pairs columns keys id place pair

/-- A foreign key of a source that names a table and none of its columns, and has as many columns as the primary key
of that table, which are several. -/
structure Source.Refers (source : Source) (child parent : String) (id : Int) (width : Nat)
    (columns : List ColumnRow) (keys : List ForeignKeyRow) : Prop where
  columns_eq : source.columns parent = .ok columns
  keys_eq : source.foreignKeys child = .ok keys
  several : 2 ≤ width
  hasKey : HasKeyOf width columns
  width_eq : (keys.filter (·.id == id)).length = width
  named : ∀ key ∈ keys, key.id = id → key.referencedTable = parent ∧ key.referencedColumn = none

/-! ## Positions -/

section
variable {columns : List ColumnRow} {width : Nat}

theorem memberRows_perm (columns : List ColumnRow) :
    (memberRows columns).Perm (columns.filter fun row => decide (0 < row.keyPosition)) :=
  (orderedBy_perm _ _).filter _

theorem mem_memberRows {row : ColumnRow} : row ∈ memberRows columns ↔ row ∈ columns ∧ 0 < row.keyPosition := by
  rw [memberRows, List.mem_filter, mem_orderedBy, decide_eq_true_eq]

theorem pairwise_ordinal (h : IsNumbered columns) :
    (memberRows columns).Pairwise fun a b => a.ordinal < b.ordinal := by
  refine List.Pairwise.filter _ (List.pairwise_map.1 ?_)
  rw [h.map_orderedBy]
  exact List.pairwise_map.2 (List.pairwise_lt_range.imp fun hl => by omega)

theorem HasKeyOf.length_memberRows (h : HasKeyOf width columns) : (memberRows columns).length = width := by
  rw [(memberRows_perm columns).length_eq, ← List.length_map (·.keyPosition), h.length_eq, List.length_map,
    List.length_range]

theorem pairwise_places (width : Nat) :
    ((List.range width).map fun place : Nat => (place : Int) + 1).Pairwise (· < ·) :=
  List.pairwise_map.2 (List.pairwise_lt_range.imp fun hl => by omega)

/-- The members stand at their positions exactly if the key has them in the order of the columns. -/
theorem map_keyPosition_iff (hn : IsNumbered columns) (hk : HasKeyOf width columns) :
    (memberRows columns).map (·.keyPosition) = ((List.range width).map fun place : Nat => (place : Int) + 1) ↔
      KeyInColumnOrder columns := by
  have ho := pairwise_ordinal hn
  constructor
  · intro e a ha b hb pa pb hl
    have hp : (memberRows columns).Pairwise fun a b => a.keyPosition < b.keyPosition :=
      List.pairwise_map.1 (e ▸ pairwise_places width)
    obtain ⟨i, hi, rfl⟩ := List.mem_iff_getElem.1 (mem_memberRows.2 ⟨ha, pa⟩)
    obtain ⟨j, hj, rfl⟩ := List.mem_iff_getElem.1 (mem_memberRows.2 ⟨hb, pb⟩)
    rcases Nat.lt_trichotomy i j with hlt | rfl | hgt
    · exact List.pairwise_iff_getElem.1 hp i j hi hj hlt
    · exact absurd hl (Int.lt_irrefl _)
    · exact absurd hl (Int.lt_asymm (List.pairwise_iff_getElem.1 ho j i hj hi hgt))
  · intro h
    have hp : ((memberRows columns).map (·.keyPosition)).Pairwise (· < ·) := by
      refine List.pairwise_map.2 (ho.imp_of_mem fun ha hb hl => ?_)
      obtain ⟨ha, pa⟩ := mem_memberRows.1 ha
      obtain ⟨hb, pb⟩ := mem_memberRows.1 hb
      exact h _ ha _ hb pa pb hl
    -- Both lists ascend, and they have the same members.
    exact List.Perm.eq_of_pairwise (fun _ _ _ _ ha hb => absurd ha (Int.lt_asymm hb)) hp (pairwise_places width)
      (((memberRows_perm columns).map _).trans hk)

/-! ## Pairs -/

variable {keys : List ForeignKeyRow} {id : Int}

theorem keepsPairs_of_positions (hw : (ForeignKey.rowsOf id keys).length = width)
    (e : (memberRows columns).map (·.keyPosition) = (List.range width).map fun place : Nat => (place : Int) + 1) :
    KeepsPairs columns keys id (localNames id keys) (memberNames columns) := by
  have hl := congrArg List.length e
  rw [List.length_map, List.length_map, List.length_range] at hl
  refine ⟨by rw [localNames, memberNames, List.length_map, List.length_map, hw, hl], fun place pair hz => ?_⟩
  obtain ⟨hk, hm⟩ := List.getElem?_zip_eq_some.1 hz
  rw [localNames, List.getElem?_map, Option.map_eq_some_iff] at hk
  rw [memberNames, List.getElem?_map, Option.map_eq_some_iff] at hm
  obtain ⟨row, hr, hn⟩ := hm
  have hp := congrArg (·[place]?) e
  have hb : place < width := hl ▸ (List.getElem?_eq_some_iff.1 hr).1
  simp only [List.getElem?_map, hr, Option.map_some, List.getElem?_range hb, Option.some.injEq] at hp
  exact ⟨hk, row, (mem_memberRows.1 (List.mem_of_getElem? hr)).1, hp, hn⟩

theorem positions_of_keepsPairs (hw : (ForeignKey.rowsOf id keys).length = width)
    (hd : (columns.map (·.name)).Nodup)
    (h : KeepsPairs columns keys id (localNames id keys) (memberNames columns)) :
    (memberRows columns).map (·.keyPosition) = (List.range width).map fun place : Nat => (place : Int) + 1 := by
  have hl := h.1
  rw [localNames, memberNames, List.length_map, List.length_map, hw] at hl
  refine List.ext_getElem (by rw [List.length_map, List.length_map, List.length_range, hl]) fun place hm hr => ?_
  rw [List.length_map] at hm
  have hk : place < (ForeignKey.rowsOf id keys).length := by omega
  have hz : ((localNames id keys).zip (memberNames columns))[place]? =
      some ((ForeignKey.rowsOf id keys)[place].localColumn, (memberRows columns)[place].name) := by
    refine List.getElem?_zip_eq_some.2 ⟨?_, ?_⟩
    · rw [localNames, List.getElem?_map, List.getElem?_eq_getElem hk, Option.map_some]
    · rw [memberNames, List.getElem?_map, List.getElem?_eq_getElem hm, Option.map_some]
  obtain ⟨-, column, hc, hp, hn⟩ := h.2 place _ hz
  -- Columns of the same name are the same, so the column at the position is the member at the place.
  have e : column = (memberRows columns)[place] :=
    List.inj_on_of_nodup_map hd hc (mem_memberRows.1 (List.getElem_mem hm)).1 hn
  rw [List.getElem_map, List.getElem_map, List.getElem_range, ← e, hp]

end

/-! ## Clauses -/

namespace Table

theorem keyColumns?_clauses (table : Table) :
    table.clauses.filterMap Clause.keyColumns? = table.declaration.key.toList := by
  have hc : (table.columns.map (·.clause table.primaryKey)).filterMap Clause.keyColumns? = [] := by
    rw [List.filterMap_map]
    exact List.filterMap_eq_nil_iff.2 fun _ _ => rfl
  have hf : (table.foreignKeys.map ForeignKey.clause).filterMap Clause.keyColumns? = [] := by
    rw [List.filterMap_map]
    exact List.filterMap_eq_nil_iff.2 fun _ _ => rfl
  rw [clauses, primaryKey_clauses, List.filterMap_append, List.filterMap_append, hc, hf, List.append_nil,
    List.nil_append]
  cases table.declaration.key <;> rfl

variable (name : String) (columns : List ColumnRow) (keys : List ForeignKeyRow) (indexes : List IndexRow)

theorem keyColumns_described : (described name columns keys indexes).keyColumns = memberNames columns := by
  rw [keyColumns, described, List.filter_map, List.map_map]
  rfl

variable {columns} in
/-- A key of several columns is declared by a clause, in the order of the columns. -/
theorem keyColumns?_described {width : Nat} (hk : HasKeyOf width columns) (hw : 2 ≤ width) :
    (described name columns keys indexes).clauses.filterMap Clause.keyColumns? = [memberNames columns] := by
  rw [keyColumns?_clauses, declaration, keyColumns_described, memberNames, List.length_map, hk.length_memberRows,
    if_pos hw]
  rfl

variable {keys} in
/-- A foreign key that names no columns is declared by a clause that names none. -/
theorem foreignKey_mem_clauses {id : Int} {parent : String} (hne : ForeignKey.rowsOf id keys ≠ [])
    (hn : ∀ key ∈ keys, key.id = id → key.referencedTable = parent ∧ key.referencedColumn = none) :
    ∃ options, .foreignKey (localNames id keys) parent [] options ∈
      (described name columns keys indexes).clauses := by
  obtain ⟨first, rest, e⟩ := List.exists_cons_of_ne_nil hne
  have hf : first ∈ keys ∧ first.id = id := ForeignKey.mem_rowsOf.1 (e ▸ List.mem_cons_self)
  obtain ⟨ht, hr⟩ := hn first hf.1 hf.2
  have hc : ForeignKey.referencedColumnsOf (first :: rest) = [] := by
    rw [ForeignKey.referencedColumnsOf, List.mapM_cons, hr]
    rfl
  have hm : (ForeignKey.ofGroup first rest).value.clause ∈ (described name columns keys indexes).clauses :=
    List.mem_append_right _ (List.mem_map_of_mem (ForeignKey.mem_ofRows e))
  have hg : (ForeignKey.ofGroup first rest).value.clause =
      .foreignKey ((first :: rest).map (·.localColumn)) first.referencedTable
        (ForeignKey.referencedColumnsOf (first :: rest)) _ := rfl
  rw [hg, hc, ht, ← e, ← localNames] at hm
  exact ⟨_, hm⟩

end Table

/-! ## Runs -/

/-- Whether a run creates a table, always by the statement with these clauses. -/
def Run.CreatesBy (run : Run) (name : String) (clauses : List Clause) : Prop :=
  ∀ sql, .createTable name sql ∈ run.document.blocks ↔ sql = createTable name clauses

namespace Source
variable {source : Source} {countRows : Bool} {run : Run} {child parent : String} {id : Int} {width : Nat}
  {columns : List ColumnRow} {keys : List ForeignKeyRow}

theorem createsBy (h : (source.run countRows).value = .ok run) {name : String}
    (hm : name ∈ run.report.tables.map (·.tableName)) :
    ∃ table, (source.readTable name).value = .ok table ∧ run.CreatesBy name table.clauses := by
  obtain ⟨table, hr, hb⟩ := createTable_mem_blocks_iff h hm
  obtain ⟨_, _, _, -, -, rfl⟩ := readTable_eq_ok_iff.1 hr
  exact ⟨_, hr, hb⟩

/-- **Exactly the keys in the order of the columns keep the pairs** of a foreign key that names a table only. -/
theorem keepsPairs_iff (h : (source.run countRows).value = .ok run)
    (hr : source.Refers child parent id width columns keys)
    (hc : child ∈ run.report.tables.map (·.tableName)) (hp : parent ∈ run.report.tables.map (·.tableName)) :
    ∃ childClauses parentClauses options,
      run.CreatesBy child childClauses ∧ run.CreatesBy parent parentClauses ∧
      .foreignKey (localNames id keys) parent [] options ∈ childClauses ∧
      parentClauses.filterMap Clause.keyColumns? = [memberNames columns] ∧
      (KeyInColumnOrder columns → KeepsPairs columns keys id (localNames id keys) (memberNames columns)) ∧
      ((columns.map (·.name)).Nodup → KeepsPairs columns keys id (localNames id keys) (memberNames columns) →
        KeyInColumnOrder columns) := by
  obtain ⟨_, ht, hct⟩ := createsBy h hc
  obtain ⟨_, hs, hps⟩ := createsBy h hp
  obtain ⟨childColumns, _, childIndexes, ⟨-, hk, -⟩, -, rfl⟩ := readTable_eq_ok_iff.1 ht
  obtain ⟨_, parentKeys, parentIndexes, ⟨hq, -, -⟩, hn, rfl⟩ := readTable_eq_ok_iff.1 hs
  obtain rfl := Except.ok.inj (hr.keys_eq.symm.trans hk)
  obtain rfl := Except.ok.inj (hr.columns_eq.symm.trans hq)
  have hw : (ForeignKey.rowsOf id keys).length = width := by rw [ForeignKey.rowsOf, length_orderedBy, hr.width_eq]
  have hne : ForeignKey.rowsOf id keys ≠ [] := by
    have h2 := hr.several
    rintro e
    rw [e, List.length_nil] at hw
    omega
  obtain ⟨options, ho⟩ := Table.foreignKey_mem_clauses child childColumns childIndexes hne hr.named
  have hi := map_keyPosition_iff hn.isNumbered hr.hasKey
  exact ⟨_, _, options, hct, hps, ho, Table.keyColumns?_described _ _ _ hr.hasKey hr.several,
    fun e => keepsPairs_of_positions hw (hi.2 e), fun hd e => hi.1 (positions_of_keepsPairs hw hd e)⟩

/-- Two columns of a key, at these positions. -/
def keyedColumns (first second : Int) : List ColumnRow :=
  [⟨0, "a", "INTEGER", false, none, first⟩, ⟨1, "b", "INTEGER", false, none, second⟩]

/-- Two columns that refer to a key, whatever its columns are. -/
def keyedKeys : List ForeignKeyRow :=
  [⟨0, 0, "parent", "x", none, none, none⟩, ⟨0, 1, "parent", "y", none, none, none⟩]

/-- A source with a table that refers to the key of another. -/
def keyed (first second : Int) : Source where
  databaseName := "db"
  tableNames := .ok ["child", "parent"]
  columns := fun name =>
    if name = "parent" then .ok (keyedColumns first second)
    else .ok [⟨0, "x", "INTEGER", false, none, 0⟩, ⟨1, "y", "INTEGER", false, none, 0⟩]
  foreignKeys := fun name => .ok (if name = "parent" then [] else keyedKeys)
  indexes := fun _ => .ok []
  rowCount := fun _ => .ok 0

theorem refers_keyed (first second : Int) (h : HasKeyOf 2 (keyedColumns first second)) :
    (keyed first second).Refers "child" "parent" 0 2 (keyedColumns first second) keyedKeys where
  columns_eq := rfl
  keys_eq := rfl
  several := by decide
  hasKey := h
  width_eq := rfl
  named := by decide

theorem keepsPairs_iff_keyed :
    (keyed 1 2).Refers "child" "parent" 0 2 (keyedColumns 1 2) keyedKeys ∧
      ∃ run, ((keyed 1 2).run false).value = .ok run ∧ run.report.tables.map (·.tableName) = ["child", "parent"] ∧
        ∃ childClauses parentClauses options,
          run.CreatesBy "child" childClauses ∧ run.CreatesBy "parent" parentClauses ∧
          .foreignKey ["x", "y"] "parent" [] options ∈ childClauses ∧
          parentClauses.filterMap Clause.keyColumns? = [["a", "b"]] ∧
          KeepsPairs (keyedColumns 1 2) keyedKeys 0 ["x", "y"] ["a", "b"] := by
  have hr := refers_keyed 1 2 (by decide)
  have ht : (Run.report (.ofEntries "db" 2 (["child", "parent"].map ((keyed 1 2).outcome false)))).tables.map
      (·.tableName) = ["child", "parent"] := rfl
  obtain ⟨childClauses, parentClauses, options, hc, hp, hf, hm, hk, -⟩ :=
    keepsPairs_iff ((keyed 1 2).run_value false) hr (ht ▸ by decide) (ht ▸ by decide)
  exact ⟨hr, _, (keyed 1 2).run_value false, ht, childClauses, parentClauses, options, hc, hp, hf, hm,
    hk (by decide)⟩

/-- The tables of that source where the key has its columns in the other order. -/
def crossedTables : List Table :=
  [{ name := "child"
     columns := [⟨0, "x", ⟨"INTEGER", none⟩, false, none, false⟩, ⟨1, "y", ⟨"INTEGER", none⟩, false, none, false⟩]
     foreignKeys := [⟨["x", "y"], "parent", [], none, none⟩]
     indexes := [] },
   { name := "parent"
     columns := [⟨0, "a", ⟨"INTEGER", none⟩, false, none, true⟩, ⟨1, "b", ⟨"INTEGER", none⟩, false, none, true⟩]
     foreignKeys := []
     indexes := [] }]

theorem run_crossed :
    ((keyed 2 1).run false).value = .ok (.ofEntries "db" 2 (crossedTables.map (.read · none))) := by
  have ho : ["child", "parent"].map ((keyed 2 1).outcome false) = crossedTables.map (.read · none) := by
    rw [crossedTables, ← DeclaredType.parse_integer]
    rfl
  rw [run_value, ← ho]
  rfl

theorem keepsPairs_crossed : KeepsPairs (keyedColumns 2 1) keyedKeys 0 ["x", "y"] ["b", "a"] := by
  refine ⟨rfl, fun place pair hz => ?_⟩
  obtain ⟨hk, hm⟩ := List.getElem?_zip_eq_some.1 hz
  match place with
  | 0 => exact ⟨⟨_, rfl, Option.some.inj hk⟩, _, .tail _ (.head _), rfl, Option.some.inj hm⟩
  | 1 => exact ⟨⟨_, rfl, Option.some.inj hk⟩, _, .head _, rfl, Option.some.inj hm⟩

/-- **A key in another order is crossed**: the source pairs `x` with `b` and `y` with `a`, and the statements pair `x`
with `a` and `y` with `b`. -/
theorem not_keepsPairs_crossed :
    (keyed 2 1).Refers "child" "parent" 0 2 (keyedColumns 2 1) keyedKeys ∧
      ∃ run, ((keyed 2 1).run false).value = .ok run ∧ run.report.tables.map (·.tableName) = ["child", "parent"] ∧
        run.document.blocks = [
          .createTable "child" (createTable "child"
            [.column "x" "INTEGER" [], .column "y" "INTEGER" [], .foreignKey ["x", "y"] "parent" [] []]),
          .createTable "parent" (createTable "parent"
            [.column "a" "INTEGER" [], .column "b" "INTEGER" [], .primaryKey ["a", "b"]])] ∧
        run.document.statements = [
          "CREATE TABLE IF NOT EXISTS child (\"x\" INTEGER, \"y\" INTEGER, " ++
            "FOREIGN KEY (\"x\", \"y\") REFERENCES \"parent\");",
          "CREATE TABLE IF NOT EXISTS parent (\"a\" INTEGER, \"b\" INTEGER, PRIMARY KEY (\"a\", \"b\"));"] ∧
        KeepsPairs (keyedColumns 2 1) keyedKeys 0 ["x", "y"] ["b", "a"] ∧
        ¬ KeepsPairs (keyedColumns 2 1) keyedKeys 0 ["x", "y"] ["a", "b"] := by
  refine ⟨refers_keyed 2 1 (by decide), _, run_crossed, rfl, rfl, rfl, keepsPairs_crossed,
    fun h => ?_⟩
  obtain ⟨column, hm, hp, hn⟩ := (h.2 0 ("x", "a") rfl).2
  have ha : ∀ column ∈ keyedColumns 2 1, column.keyPosition = ((0 : Nat) : Int) + 1 → column.name ≠ "a" := by decide
  exact ha column hm hp hn

end Source

end CatalogDdl
