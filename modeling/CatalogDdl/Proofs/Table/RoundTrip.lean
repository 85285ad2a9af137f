import CatalogDdl.Proofs.Table.Clause

/-! # Tables are read back from their statements

`Table.read_createStatement`: the statement of a table, read back from its text, declares what the table declares
and nothing else.

Names may hold anything. Of the default texts that are written as they are, it matters that they are
self-contained: a comma of theirs could otherwise be taken for the end of the column.
-/

namespace CatalogDdl
set_option autoImplicit false
open Sql

/-! ## Single clauses -/

theorem Column.readColumn_clause (column : Column) (table : Table) :
    readColumn (column.clause table.primaryKey).sql.toList = some (column.declaration table.keyColumns) := by
  have ht : (optionsText (column.declaration table.keyColumns).isKey (column.declaration table.keyColumns).notNull
      column.defaultExpression).head? ≠ some '(' :=
    head?_ne_of_blank (head?_optionsText _ _ _) (by decide)
  rw [toList_clause, readColumn, readIdentifier_identifier _ (by simp)]
  simp only [Option.bind_eq_bind, Option.bind_some, after?_append, readType_sql _ ht, readOptions_optionsText]
  rfl

theorem Column.readClause_clause (column : Column) (table : Table) :
    readClause (column.clause table.primaryKey).sql.toList =
      some (.column (column.declaration table.keyColumns)) := by
  rw [readClause, head?_clause]
  simp only [readColumn_clause, Option.map_some]

theorem readKey_primaryKey (columns : List String) :
    readKey (Clause.primaryKey columns).sql.toList = some columns := by
  rw [toList_primaryKey, readKey]
  simp only [Option.bind_eq_bind, Option.bind_some, after?_append, readIdentifiers_parenthesis, if_true]

theorem readClause_primaryKey (columns : List String) :
    readClause (Clause.primaryKey columns).sql.toList = some (.key columns) := by
  rw [readClause, head?_primaryKey]
  simp only [readKey_primaryKey, Option.map_some]

namespace ForeignKey

theorem readReferenced_referencedList (columns : List String) {rest : List Char} (h : rest.head? ≠ some '(') :
    readReferenced ((Clause.referencedList columns).toList ++ rest) = some (columns, rest) := by
  cases columns with
  | nil => exact readReferenced_none h
  | cons column columns =>
    have e : (Clause.referencedList (column :: columns)).toList ++ rest =
        '(' :: (identifiers (column :: columns)).toList ++ ')' :: rest := by simp [Clause.referencedList, toString]
    rw [e, readReferenced_some]

theorem readReference_clause (key : ForeignKey) : readReference key.clause.sql.toList = some key.declaration := by
  have hb := head?_actionsText key.declaration.onDelete key.declaration.onUpdate
  have hp : (actionsText key.declaration.onDelete key.declaration.onUpdate).head? ≠ some '(' :=
    head?_ne_of_blank hb (by decide)
  have hq : ((Clause.referencedList key.referencedColumns).toList ++
      actionsText key.declaration.onDelete key.declaration.onUpdate).head? ≠ some '"' := by
    cases key.referencedColumns with
    | nil => exact head?_ne_of_blank hb (by decide)
    | cons column columns => simp [Clause.referencedList, toString]
  have hl : readIdentifiers ((identifiers key.localColumns).toList ++ (") REFERENCES ".toList ++
        ((identifier key.referencedTable).toList ++ ((Clause.referencedList key.referencedColumns).toList ++
          actionsText key.declaration.onDelete key.declaration.onUpdate)))) =
      (key.localColumns, ") REFERENCES ".toList ++
        ((identifier key.referencedTable).toList ++ ((Clause.referencedList key.referencedColumns).toList ++
          actionsText key.declaration.onDelete key.declaration.onUpdate))) :=
    readIdentifiers_parenthesis _ _
  have hd : after? " ON DELETE " (announced " ON UPDATE " key.declaration.onUpdate) = none := by
    cases key.declaration.onUpdate with
    | none => rfl
    | some action => exact after?_eq_none (by decide) (by decide) _
  have hu : readAction " ON UPDATE " (announced " ON UPDATE " key.declaration.onUpdate) =
      some (key.declaration.onUpdate, []) := by
    have h : after? " ON UPDATE " [] = none := rfl
    rw [← List.append_nil (announced " ON UPDATE " key.declaration.onUpdate), readAction_announced _ h]
  rw [toList_clause, readReference]
  simp only [Option.bind_eq_bind, Option.bind_some, after?_append, hl, readIdentifier_identifier _ hq,
    readReferenced_referencedList _ hp]
  rw [actionsText, readAction_announced _ hd]
  simp only [Option.bind_some, hu, if_true]
  rfl

theorem readClause_clause (key : ForeignKey) :
    readClause key.clause.sql.toList = some (.reference key.declaration) := by
  rw [readClause, head?_clause]
  change (readReference key.clause.sql.toList).map ClauseDeclaration.reference = _
  rw [readReference_clause, Option.map_some]

end ForeignKey

/-! ## Clauses -/

/-- What the clauses of a table declare, one by one. -/
def Table.declarations (table : Table) : List ClauseDeclaration :=
  table.declaration.columns.map .column ++ table.declaration.key.toList.map .key ++
    table.declaration.references.map .reference

theorem mapM_readClause {α : Type} {items : List α} {text : α → List Char} {declared : α → ClauseDeclaration}
    (h : ∀ item ∈ items, readClause (text item) = some (declared item)) :
    (items.map text).mapM readClause = some (items.map declared) := by
  induction items with
  | nil => rfl
  | cons item items ih =>
    have hr := ih fun other ho => h other (List.mem_cons_of_mem _ ho)
    rw [List.map_cons, List.mapM_cons, h item List.mem_cons_self, hr]
    rfl

theorem ofClauses_declarations (name : String) (columns : List ColumnDeclaration) (key : Option (List String))
    (references : List ReferenceDeclaration) :
    TableDeclaration.ofClauses name
      (columns.map .column ++ key.toList.map .key ++ references.map .reference) =
        some ⟨name, columns, key, references⟩ := by
  have hr : references? (references.map .reference) = some references := by
    induction references with
    | nil => rfl
    | cons reference references ih => rw [List.map_cons, references?, ih, Option.map_some]
  induction columns with
  | nil =>
    cases key with
    | none =>
      cases references with
      | nil => rfl
      | cons reference references =>
        change (references? ((reference :: references).map .reference)).map
          (fun references => TableDeclaration.mk name [] none references) = _
        rw [hr, Option.map_some]
    | some key =>
      rw [List.map_nil, Option.toList_some, List.map_singleton, List.nil_append, List.singleton_append,
        TableDeclaration.ofClauses, hr, Option.map_some]
  | cons column columns ih =>
    rw [List.map_cons, List.cons_append, List.cons_append, TableDeclaration.ofClauses, ih, Option.map_some]

namespace Table
variable (table : Table)

theorem mapM_clauses :
    (table.clauses.map (·.sql.toList)).mapM readClause = some table.declarations := by
  have hc : (table.columns.map fun column => (column.clause table.primaryKey).sql.toList).mapM readClause =
      some (table.columns.map fun column => .column (column.declaration table.keyColumns)) :=
    mapM_readClause fun column _ => column.readClause_clause table
  have hk :
      (table.declaration.key.toList.map fun columns => (Clause.primaryKey columns).sql.toList).mapM readClause =
        some (table.declaration.key.toList.map .key) :=
    mapM_readClause fun columns _ => readClause_primaryKey columns
  have hf : (table.foreignKeys.map fun key => key.clause.sql.toList).mapM readClause =
      some (table.foreignKeys.map fun key => .reference key.declaration) :=
    mapM_readClause fun key _ => key.readClause_clause
  have e : table.clauses.map (·.sql.toList) =
      (table.columns.map fun column => (column.clause table.primaryKey).sql.toList) ++
        (table.declaration.key.toList.map fun columns => (Clause.primaryKey columns).sql.toList) ++
          table.foreignKeys.map fun key => key.clause.sql.toList := by
    rw [clauses, primaryKey_clauses, List.map_append, List.map_append, List.map_map, List.map_map, List.map_map]
    rfl
  have ed : table.declarations =
      (table.columns.map fun column => .column (column.declaration table.keyColumns)) ++
        table.declaration.key.toList.map .key ++ table.foreignKeys.map fun key => .reference key.declaration := by
    rw [declarations, declaration, List.map_map, List.map_map]
    rfl
  rw [e, List.mapM_append, List.mapM_append, hc, hk, hf, ed]
  rfl

variable {table}

/-- **The statement of a table is read back to what the table declares**, to its last character. -/
theorem read_createStatement (h : ∀ text ∈ table.rawDefaults, IsSelfContained text.toList) :
    TableDeclaration.read table.createStatement = some table.declaration := by
  have hn : ∀ c ∈ (" (".toList ++ ([',', ' '].intercalate (table.clauses.map (·.sql.toList)) ++ [')', ';'])).head?,
      isNameChar c = false ∧ c ≠ '"' := by
    intro c hc
    obtain rfl : ' ' = c := Option.some.inj hc
    decide
  -- Each clause is self-contained, so the commas outside of them are those between them.
  have ht : clauseTexts ([',', ' '].intercalate (table.clauses.map (·.sql.toList)) ++ [')', ';']) =
      (table.clauses.map (·.sql.toList), [')', ';']) := by
    refine clauseTexts_intercalate [';'] fun text hm => ?_
    obtain ⟨clause, hc, rfl⟩ := List.mem_map.1 hm
    exact ⟨composes_selfContained.clauses h clause hc, head?_clauses hc⟩
  rw [createStatement, TableDeclaration.read, toList_createTable]
  simp only [Option.bind_eq_bind, Option.bind_some, after?_append, readTableName_plainIdentifier _ hn, ht, if_true,
    mapM_clauses, ofClauses_declarations, declarations]
  rfl

/-- A table whose names hold the separators, quotes and keywords of the statement itself. -/
def entangled : Table where
  name := "\", ); PRIMARY KEY ("
  columns := [
    ⟨0, "a\" TEXT, \"b", ⟨"INTEGER", none⟩, true, some "coalesce(1, ',')", true⟩,
    ⟨1, "", ⟨"VARCHAR", some 3⟩, true, some "') --'", false⟩,
    ⟨2, "line\nbreak", ⟨"TEXT", none⟩, false, some "it's", true⟩]
  foreignKeys := [⟨["", "a\" TEXT, \"b"], "t\") ON DELETE CASCADE", [], some .noAction, some .setNull⟩]
  indexes := []

theorem read_createStatement_entangled :
    (∀ text ∈ entangled.rawDefaults, IsSelfContained text.toList) ∧
      TableDeclaration.read entangled.createStatement = some {
        name := "\", ); PRIMARY KEY ("
        columns := [
          ⟨"a\" TEXT, \"b", "INTEGER", false, true, some "coalesce(1, ',')"⟩,
          ⟨"", "VARCHAR(3)", false, true, some "') --'"⟩,
          ⟨"line\nbreak", "TEXT", false, false, some "'it''s'"⟩]
        key := some ["a\" TEXT, \"b", "line\nbreak"]
        references := [⟨["", "a\" TEXT, \"b"], "t\") ON DELETE CASCADE", [], none, some .setNull⟩] } := by
  have hr : entangled.rawDefaults = ["coalesce(1, ',')", "') --'"] := by decide
  have hs : ∀ text ∈ entangled.rawDefaults, IsSelfContained text.toList := by
    rw [hr]
    decide
  refine ⟨hs, (read_createStatement hs).trans ?_⟩
  rfl

end Table

end CatalogDdl
