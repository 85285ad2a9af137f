import CatalogDdl.Proofs.Sql.Composition
import CatalogDdl.Proofs.Sql.CreateTable
import CatalogDdl.Proofs.Sql.Declaration
import CatalogDdl.Table.Statement

/-! # The clauses of a table

What a table declares, and the texts of the clauses that declare it.

* `Table.declaration`: what the statement of a table has to declare, in terms of the table alone.
* `Column.toList_clause`, `toList_primaryKey`, `ForeignKey.toList_clause`: the texts of the clauses, piece by piece.
* `Composes.clauses`: what holds of names and fixed words holds of the clauses that are put together from them.
* `Column.rawDefault?`, `Table.rawDefaults`: the default texts that stand as they are. Nothing is known about them but
  what the source reported.
-/

namespace CatalogDdl
set_option autoImplicit false
open Sql

/-! ## Default values -/

/-- The default text of a column that is written as it is. -/
def Column.rawDefault? (column : Column) : Option String :=
  column.defaultText.filter column.standsAsIs

/-- The default texts of a table that are written as they are. -/
def Table.rawDefaults (table : Table) : List String :=
  table.columns.filterMap Column.rawDefault?

/-- A default expression is a literal unless it is a text that is written as it is. -/
theorem Column.defaultExpression_cases {column : Column} {expression : String}
    (h : column.defaultExpression = some expression) :
    column.rawDefault? = some expression ∨ ∃ text, expression = Sql.literal text := by
  obtain ⟨text, ht, he⟩ := Option.map_eq_some_iff.1 h
  by_cases hs : column.standsAsIs text
  · rw [if_pos hs] at he
    refine .inl ?_
    rw [rawDefault?, ht, Option.filter_some, if_pos hs, he]
  · rw [if_neg hs] at he
    exact .inr ⟨text, he.symm⟩

theorem Table.mem_rawDefaults {table : Table} {column : Column} {text : String} (hc : column ∈ table.columns)
    (h : column.rawDefault? = some text) : text ∈ table.rawDefaults :=
  List.mem_filterMap.2 ⟨column, hc, h⟩

/-! ## What a table declares -/

/-- A column is marked as the key if it bears the name of the only key column. -/
def Column.declaration (keyColumns : List String) (column : Column) : ColumnDeclaration where
  name := column.name
  type := column.type.sql
  isKey := keyColumns == [column.name]
  notNull := column.notNull && keyColumns != [column.name]
  defaultExpression := column.defaultExpression

def ForeignKey.declaration (key : ForeignKey) : ReferenceDeclaration where
  columns := key.localColumns
  table := key.referencedTable
  referenced := key.referencedColumns
  onDelete := key.onDelete.filter (!·.isNoOp)
  onUpdate := key.onUpdate.filter (!·.isNoOp)

/-- A key of two or more columns is declared apart from them. -/
def Table.declaration (table : Table) : TableDeclaration where
  name := table.name
  columns := table.columns.map (Column.declaration table.keyColumns)
  key := if 2 ≤ table.keyColumns.length then some table.keyColumns else none
  references := table.foreignKeys.map ForeignKey.declaration

/-! ## Columns -/

theorem Table.primaryKey_simple (table : Table) (name : String) :
    (table.primaryKey == .simple name) = (table.keyColumns == [name]) := by
  rw [Table.primaryKey]
  cases table.keyColumns with
  | nil => rfl
  | cons first more =>
    cases more with
    | nil =>
      by_cases hn : first = name
      · rw [hn, beq_self_eq_true, beq_self_eq_true]
      · have hs : PrimaryKey.simple first ≠ .simple name := fun e => hn (PrimaryKey.simple.inj e)
        have hl : [first] ≠ [name] := fun e => hn (List.head_eq_of_cons_eq e)
        rw [beq_false_of_ne hs, beq_false_of_ne hl]
    | cons second more =>
      have hl : first :: second :: more ≠ [name] := fun e => by simp at e
      rw [beq_false_of_ne hl]
      rfl

namespace Column
variable (column : Column) (table : Table)

/-- The options of a column that is the key or not, and never null or not. -/
def optionsOf (isKey notNull : Bool) (expression : Option String) : List ColumnOption :=
  (if isKey then [.primaryKey] else []) ++ (if notNull then [.notNull] else []) ++
    (expression.map .defaultTo).toList

theorem options_eq (column : Column) (key : PrimaryKey) :
    column.options key =
      optionsOf (key == .simple column.name) (column.notNull && !(key == .simple column.name))
        column.defaultExpression := rfl

theorem flatMap_optionsOf (isKey notNull : Bool) (expression : Option String) :
    ((optionsOf isKey notNull expression).map ColumnOption.sql).flatMap String.toList =
      optionsText isKey notNull expression := by
  have hk : ((if isKey then [ColumnOption.primaryKey] else []).map ColumnOption.sql).flatMap String.toList =
      if isKey then " PRIMARY KEY".toList else [] := by
    cases isKey <;> rfl
  have hn : ((if notNull then [ColumnOption.notNull] else []).map ColumnOption.sql).flatMap String.toList =
      if notNull then " NOT NULL".toList else [] := by
    cases notNull <;> rfl
  have hd : ((expression.map ColumnOption.defaultTo).toList.map ColumnOption.sql).flatMap String.toList =
      defaultOptionText expression := by
    cases expression with
    | none => rfl
    | some text =>
      rw [Option.map_some, Option.toList_some, List.map_singleton, List.flatMap_singleton, ColumnOption.sql,
        String.toList_append]
      rfl
  rw [optionsOf, List.map_append, List.map_append, List.flatMap_append, List.flatMap_append, hk, hn, hd,
    List.append_assoc]
  rfl

theorem toList_clause :
    (column.clause table.primaryKey).sql.toList =
      (identifier column.name).toList ++ (" ".toList ++ (column.type.sql.toList ++
        optionsText (column.declaration table.keyColumns).isKey (column.declaration table.keyColumns).notNull
          column.defaultExpression)) := by
  have hh : (s!"{identifier column.name} {column.type.sql}").toList =
      (identifier column.name).toList ++ (" ".toList ++ column.type.sql.toList) := by simp [toString]
  have ho : (String.join ((column.options table.primaryKey).map ColumnOption.sql)).toList =
      optionsText (column.declaration table.keyColumns).isKey (column.declaration table.keyColumns).notNull
        column.defaultExpression := by
    rw [String.toList_join, options_eq, table.primaryKey_simple, flatMap_optionsOf]
    rfl
  rw [clause, Clause.sql_column, String.toList_append, hh, ho, List.append_assoc, List.append_assoc]

theorem head?_clause : (column.clause table.primaryKey).sql.toList.head? = some '"' := by
  rw [toList_clause, toList_identifier]
  rfl

end Column

/-! ## Keys -/

theorem toList_primaryKey (columns : List String) :
    (Clause.primaryKey columns).sql.toList =
      "PRIMARY KEY (".toList ++ ((identifiers columns).toList ++ [')']) := by
  rw [Clause.sql_primaryKey]
  simp [toString]

theorem head?_primaryKey (columns : List String) : (Clause.primaryKey columns).sql.toList.head? = some 'P' := by
  rw [toList_primaryKey]
  rfl

namespace Table

theorem primaryKey_clauses (table : Table) :
    table.primaryKey.clauses = table.declaration.key.toList.map Clause.primaryKey := by
  rw [primaryKey, declaration]
  cases table.keyColumns with
  | nil => rfl
  | cons first more =>
    cases more with
    | nil => rfl
    | cons second more => rfl

end Table

/-! ## Foreign keys -/

namespace ForeignKey
variable (key : ForeignKey)

theorem flatMap_action {word : String} {option : String → KeyOption}
    (h : ∀ action, (option action).sql = word ++ action) (action : Option Action) :
    (((actionText action).map option).toList.map KeyOption.sql).flatMap String.toList =
      announced word (action.filter (!·.isNoOp)) := by
  rw [actionText]
  cases action.filter (!·.isNoOp) with
  | none => rfl
  | some action =>
    rw [Option.map_some, Option.map_some, Option.toList_some, List.map_singleton, List.flatMap_singleton, h,
      String.toList_append, announced]

theorem flatMap_options :
    ((((actionText key.onDelete).map KeyOption.onDelete).toList ++
      ((actionText key.onUpdate).map KeyOption.onUpdate).toList).map KeyOption.sql).flatMap String.toList =
        actionsText key.declaration.onDelete key.declaration.onUpdate := by
  rw [List.map_append, List.flatMap_append, flatMap_action (fun _ => rfl), flatMap_action (fun _ => rfl)]
  rfl

theorem toList_clause :
    key.clause.sql.toList =
      "FOREIGN KEY (".toList ++ ((identifiers key.localColumns).toList ++ (") REFERENCES ".toList ++
        ((identifier key.referencedTable).toList ++ ((Clause.referencedList key.referencedColumns).toList ++
          actionsText key.declaration.onDelete key.declaration.onUpdate)))) := by
  have hh : (s!"FOREIGN KEY ({identifiers key.localColumns}) REFERENCES {identifier key.referencedTable}").toList =
      "FOREIGN KEY (".toList ++ ((identifiers key.localColumns).toList ++ (") REFERENCES ".toList ++
        (identifier key.referencedTable).toList)) := by simp [toString]
  have hs (text : String) :
      s!"FOREIGN KEY ({identifiers key.localColumns}) REFERENCES {identifier key.referencedTable}{text}" =
        s!"FOREIGN KEY ({identifiers key.localColumns}) REFERENCES {identifier key.referencedTable}" ++ text := rfl
  rw [clause, Clause.sql_foreignKey, hs, String.toList_append, String.toList_append, hh, String.toList_join,
    flatMap_options]
  simp only [List.append_assoc]

theorem head?_clause : key.clause.sql.toList.head? = some 'F' := by
  rw [toList_clause]
  rfl

end ForeignKey

/-! ## What holds of all clauses -/

namespace Table
variable {table : Table}

theorem clause_cases {clause : Clause} (h : clause ∈ table.clauses) :
    (∃ column ∈ table.columns, clause = column.clause table.primaryKey) ∨
      (∃ columns, clause = .primaryKey columns) ∨ ∃ key ∈ table.foreignKeys, clause = key.clause := by
  rw [clauses, primaryKey_clauses, List.mem_append, List.mem_append, List.mem_map, List.mem_map, List.mem_map] at h
  rcases h with (⟨column, hm, rfl⟩ | ⟨columns, -, rfl⟩) | ⟨key, hm, rfl⟩
  · exact .inl ⟨column, hm, rfl⟩
  · exact .inr (.inl ⟨columns, rfl⟩)
  · exact .inr (.inr ⟨key, hm, rfl⟩)

theorem head?_clauses {clause : Clause} (h : clause ∈ table.clauses) :
    ∃ c cs, clause.sql.toList = c :: cs ∧ c ≠ ' ' := by
  have hc : ∃ c, clause.sql.toList.head? = some c ∧ c ≠ ' ' := by
    rcases clause_cases h with ⟨column, -, rfl⟩ | ⟨columns, rfl⟩ | ⟨key, -, rfl⟩
    · exact ⟨_, column.head?_clause table, by decide⟩
    · exact ⟨_, head?_primaryKey columns, by decide⟩
    · exact ⟨_, key.head?_clause, by decide⟩
  obtain ⟨c, hh, hb⟩ := hc
  obtain ⟨cs, e⟩ := List.head?_eq_some_iff.1 hh
  exact ⟨c, cs, e, hb⟩

end Table

namespace Sql.Composes
variable {inner last : List Char → Prop} (hc : Composes inner last)
include hc

theorem type (t : ColumnType) : inner t.sql.toList := by
  have ht : t.target.sql.toList.all isBland = true := by cases t.target <;> decide
  rw [ColumnType.sql]
  cases t.size with
  | none => exact hc.bland ht
  | some size =>
    have hd : (toString size).toList.all isBland = true := by
      rw [List.all_eq_true]
      intro c hm
      exact isBland_of_continuesPlain (by simp [continuesPlain, isDigit_toString size hm])
    have e : (s!"{t.target.sql}({size})").toList =
        t.target.sql.toList ++ ('(' :: ((toString size).toList ++ [')'])) := by simp [toString]
    rw [e]
    exact hc.append (hc.bland ht) (hc.parenthesized hd)

theorem defaultOption {column : Column} (h : ∀ text ∈ column.rawDefault?, last text.toList) :
    last (defaultOptionText column.defaultExpression) := by
  cases he : column.defaultExpression with
  | none => exact hc.alone (hc.bland rfl)
  | some expression =>
    refine hc.before (hc.bland (by decide)) ?_
    obtain hr | ⟨text, rfl⟩ := column.defaultExpression_cases he
    · exact h _ hr
    · exact hc.alone (hc.literal text)

theorem column {column : Column} (table : Table) (h : ∀ text ∈ column.rawDefault?, last text.toList) :
    last (column.clause table.primaryKey).sql.toList := by
  have ho : ∀ (marked : Bool) (word : String), word.toList.all isBland = true →
      inner (if marked then word.toList else []) := by
    intro marked word hw
    cases marked with
    | true => exact hc.bland hw
    | false => exact hc.bland rfl
  rw [Column.toList_clause, optionsText]
  refine hc.before (hc.name _) (hc.before (hc.bland (by decide)) (hc.before (hc.type _) ?_))
  exact hc.before (ho _ _ (by decide)) (hc.before (ho _ _ (by decide)) (hc.defaultOption h))

theorem primaryKey (columns : List String) : inner (Clause.primaryKey columns).sql.toList := by
  have e : "PRIMARY KEY (".toList ++ ((identifiers columns).toList ++ [')']) =
      "PRIMARY KEY ".toList ++ ('(' :: ((identifiers columns).toList ++ [')'])) := by simp
  rw [toList_primaryKey, e]
  exact hc.append (hc.bland (by decide)) (hc.names columns)

theorem referencedList (columns : List String) : inner (Clause.referencedList columns).toList := by
  cases columns with
  | nil => exact hc.bland rfl
  | cons column columns =>
    have e : (Clause.referencedList (column :: columns)).toList =
        '(' :: ((identifiers (column :: columns)).toList ++ [')']) := by simp [Clause.referencedList, toString]
    rw [e]
    exact hc.names _

theorem announced {word : String} (hw : word.toList.all isBland = true) (action : Option Action) :
    inner (Sql.announced word action) := by
  cases action with
  | none => exact hc.bland rfl
  | some action =>
    refine hc.append (hc.bland hw) (hc.bland ?_)
    cases action <;> decide

theorem foreignKey (key : ForeignKey) : inner key.clause.sql.toList := by
  have e : key.clause.sql.toList =
      "FOREIGN KEY ".toList ++ (('(' :: ((identifiers key.localColumns).toList ++ [')'])) ++
        (" REFERENCES ".toList ++ ((identifier key.referencedTable).toList ++
          ((Clause.referencedList key.referencedColumns).toList ++
            actionsText key.declaration.onDelete key.declaration.onUpdate)))) := by
    rw [ForeignKey.toList_clause]
    simp
  have ha : inner (actionsText key.declaration.onDelete key.declaration.onUpdate) :=
    hc.append (hc.announced (by decide) _) (hc.announced (by decide) _)
  rw [e]
  refine hc.append (hc.bland (by decide)) (hc.append (hc.names _) (hc.append (hc.bland (by decide)) ?_))
  exact hc.append (hc.name _) (hc.append (hc.referencedList _) ha)

/-- **What holds of names and fixed words holds of all clauses of a table**, as far as it holds of the default
texts that are written as they are. -/
theorem clauses {table : Table} (h : ∀ text ∈ table.rawDefaults, last text.toList) :
    ∀ clause ∈ table.clauses, last clause.sql.toList := by
  intro clause hm
  rcases Table.clause_cases hm with ⟨column, hk, rfl⟩ | ⟨columns, rfl⟩ | ⟨key, -, rfl⟩
  · exact hc.column table fun text ht => h text (Table.mem_rawDefaults hk ht)
  · exact hc.alone (hc.primaryKey columns)
  · exact hc.alone (hc.foreignKey key)

end Sql.Composes

end CatalogDdl
