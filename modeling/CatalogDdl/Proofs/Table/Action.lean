import CatalogDdl.Proofs.Table.Events
import CatalogDdl.Proofs.Table.Grouping
import CatalogDdl.Proofs.Table.RoundTrip

/-! # Referential actions, from rows to statements

Four actions have an effect and are stated in the clause of a foreign key. The fifth, `NO ACTION`, is what happens
anyway.

* `Action.statedText`: what a clause says where a row gives a text. `Action.unknownLines`: what the log says of it.
* `LeadingRows`: the rows that speak for the keys, one for each, in the order of the keys.
* `ForeignKey.States`: the clause of a key, to its last character, and the actions that it declares.
* `Table.states_actions`: all clauses of a table say, and the log says, what the leading rows give.
-/

namespace CatalogDdl
set_option autoImplicit false
open Sql Text

/-! ## What is said of a text -/

namespace Action

/-- The actions that have an effect, as they are written. -/
def effectiveTexts : List String :=
  ["RESTRICT", "CASCADE", "SET NULL", "SET DEFAULT"]

def normalText (text : String) : String :=
  upper (trim text)

def statedText (given : Option String) : Option String :=
  (given.map normalText).filter (· ∈ effectiveTexts)

def unknownMessage : String :=
  "Unknown referential action, ignoring it"

def unknownLines : Option String → List LogLine
  | none => []
  | some text =>
    if trim text = "" ∨ normalText text ∈ "NO ACTION" :: effectiveTexts then []
    else [⟨.warning, unknownMessage, [("action", .text (trim text))]⟩]

/-- An action that a clause declares where a row gives a text. Read as such a text, its own text is the action. -/
structure IsStated (given : Option String) (declared : Option Action) : Prop where
  text : declared.map Action.sql = statedText given
  given : ∀ action, declared = some action → (Action.read given).value = some action
  again : ∀ action, declared = some action → Action.read (some action.sql) = pure (some action)

theorem sql_injective {a b : Action} (h : a.sql = b.sql) : a = b := by
  revert h
  cases a <;> cases b <;> decide

theorem mem_all (action : Action) : action ∈ all := by
  cases action <;> decide

theorem normalText_sql (action : Action) : normalText action.sql = action.sql := by
  cases action <;> decide

theorem ofText?_eq_some_iff {text : String} {action : Action} :
    ofText? text = some action ↔ normalText text = action.sql := by
  have hn : upper (trim text) = normalText text := rfl
  rw [ofText?, hn]
  constructor
  · intro h
    have hs := List.find?_some h
    rw [beq_iff_eq] at hs
    exact hs.symm
  · intro h
    rw [h]
    cases hf : all.find? fun other => other.sql == action.sql with
    | none => exact absurd (beq_self_eq_true _) (List.find?_eq_none.1 hf action (mem_all action))
    | some found =>
      have hs := List.find?_some hf
      rw [beq_iff_eq] at hs
      rw [sql_injective hs]

theorem ofText?_eq_none_iff {text : String} :
    ofText? text = none ↔ normalText text ∉ "NO ACTION" :: effectiveTexts := by
  have ha : "NO ACTION" :: effectiveTexts = all.map sql := rfl
  rw [ofText?, List.find?_eq_none, ha, List.mem_map]
  simp [normalText]

theorem not_isNoOp_iff {action : Action} : (!action.isNoOp) = true ↔ action.sql ∈ effectiveTexts := by
  cases action <;> decide

theorem parse_sql (action : Action) : parse action.sql = pure (some action) := by
  have hb : (trim action.sql == "") = false := by cases action <;> decide
  rw [parse, hb, if_neg Bool.false_ne_true, ofText?_eq_some_iff.2 (normalText_sql action)]

theorem map_sql_filter (given : Option String) :
    ((given.bind ofText?).filter (!·.isNoOp)).map sql = statedText given := by
  cases given with
  | none => rfl
  | some text =>
    rw [Option.bind_some, statedText, Option.map_some]
    cases h : ofText? text with
    | none =>
      have hn : normalText text ∉ effectiveTexts := fun hm =>
        ofText?_eq_none_iff.1 h (List.mem_cons_of_mem _ hm)
      simp [Option.filter, hn]
    | some action =>
      have hs := ofText?_eq_some_iff.1 h
      by_cases he : action.sql ∈ effectiveTexts
      · simp [Option.filter, hs, he, not_isNoOp_iff.2 he]
      · have hn : (!action.isNoOp) = false := Bool.eq_false_iff.2 (mt not_isNoOp_iff.1 he)
        simp [Option.filter, hs, he, hn]

theorem isStated_filter (given : Option String) : IsStated given ((given.bind ofText?).filter (!·.isNoOp)) where
  text := map_sql_filter given
  given := fun action h => by rw [value_read, (Option.filter_eq_some_iff.1 h).1]
  again := fun action _ => parse_sql action

theorem lines_read (given : Option String) : (read given).events.map Event.line = unknownLines given := by
  cases given with
  | none => rfl
  | some text =>
    rw [read, parse, unknownLines]
    by_cases hb : trim text = ""
    · rw [if_pos (beq_iff_eq.2 hb), if_pos (.inl hb)]
      rfl
    · rw [if_neg (mt beq_iff_eq.1 hb)]
      cases h : ofText? text with
      | none =>
        rw [if_neg (not_or.2 ⟨hb, ofText?_eq_none_iff.1 h⟩)]
        rfl
      | some action =>
        have hm : normalText text ∈ "NO ACTION" :: effectiveTexts := by
          by_contra hn
          rw [ofText?_eq_none_iff.2 hn] at h
          contradiction
        rw [if_pos (.inr hm)]
        rfl

end Action

/-! ## Leading rows -/

/-- The rows that lead the keys, in the order in which the ids of the keys first appear. -/
structure LeadingRows (rows firsts : List ForeignKeyRow) : Prop where
  appear : AppearAs rows (firsts.map (·.id))
  lead : ∀ first ∈ firsts, Leads rows first.id first

namespace ForeignKey
variable {rows rest : List ForeignKeyRow} {first : ForeignKeyRow} {id : Int}

theorem id_of_rowsOf (h : rowsOf id rows = first :: rest) : first.id = id :=
  (mem_rowsOf.1 (h ▸ List.mem_cons_self)).2

theorem map_id_firstRows (rows : List ForeignKeyRow) :
    (firstRows rows).map (·.id) = (rows.map (·.id)).eraseDups := by
  have he : ∀ id ∈ (rows.map (·.id)).eraseDups, ((rowsOf id rows).head?.map (·.id)) = some id := by
    intro id hi
    obtain ⟨row, hr, hi⟩ := List.mem_map.1 (List.mem_eraseDups.1 hi)
    obtain ⟨first, rest, e⟩ := List.exists_cons_of_ne_nil (List.ne_nil_of_mem (mem_rowsOf.2 ⟨hr, hi⟩))
    rw [e, List.head?_cons, Option.map_some, id_of_rowsOf e]
  rw [firstRows, groups, List.filterMap_map, List.map_filterMap]
  exact (List.filterMap_congr he).trans List.filterMap_some

theorem leadingRows_firstRows (rows : List ForeignKeyRow) : LeadingRows rows (firstRows rows) where
  appear := map_id_firstRows rows ▸ appearAs rows
  lead := by
    intro first hf
    rw [firstRows, groups, List.filterMap_map, List.mem_filterMap] at hf
    obtain ⟨id, -, hh⟩ := hf
    obtain ⟨rest, e⟩ : ∃ rest, rowsOf id rows = first :: rest := List.head?_eq_some_iff.1 hh
    have hg := isGroup_rowsOf id rows
    rw [e] at hg
    rw [id_of_rowsOf e]
    exact leads_of_isGroup hg

/-- What holds of each group, of its first row and its key, holds all along the first rows and the keys. -/
theorem forall₂_ofRows {R : ForeignKeyRow → ForeignKey → Prop}
    (h : ∀ id first rest, rowsOf id rows = first :: rest → R first (ofGroup first rest).value) :
    List.Forall₂ R (firstRows rows) (ofRows rows).value := by
  have hg : ∀ group ∈ groups rows, ∀ first rest, group = first :: rest → R first (ofGroup first rest).value := by
    intro group hm first rest e
    obtain ⟨id, -, rfl⟩ := List.mem_map.1 hm
    exact h id first rest e
  -- Neither list holds anything for an empty group, so they stay side by side along all groups.
  rw [firstRows, value_ofRows]
  revert hg
  generalize groups rows = groups
  intro hg
  induction groups with
  | nil => exact .nil
  | cons group more ih =>
    have hr := ih fun other ho => hg other (List.mem_cons_of_mem _ ho)
    cases group with
    | nil => exact hr
    | cons first rest => exact .cons (hg _ List.mem_cons_self first rest rfl) hr

/-! ## Clauses -/

def optionText (word : String) (action : Option String) : String :=
  action.elim "" (word ++ ·)

/-- The text of a clause, with what it says of the two actions in front of its end. -/
structure States (rows : List ForeignKeyRow) (first : ForeignKeyRow) (text : String) : Prop where
  written : ∃ group referenced, IsGroup rows first.id group ∧
    text = "FOREIGN KEY (" ++ identifiers (group.map (·.localColumn)) ++ ") REFERENCES " ++
      identifier first.referencedTable ++ Clause.referencedList referenced ++
        optionText " ON DELETE " (Action.statedText first.onDelete) ++
          optionText " ON UPDATE " (Action.statedText first.onUpdate)
  declared : ∃ declared, readClause text.toList = some (.reference declared) ∧
    Action.IsStated first.onDelete declared.onDelete ∧ Action.IsStated first.onUpdate declared.onUpdate

theorem sql_clause (key : ForeignKey) :
    key.clause.sql = "FOREIGN KEY (" ++ identifiers key.localColumns ++ ") REFERENCES " ++
      identifier key.referencedTable ++ Clause.referencedList key.referencedColumns ++
        optionText " ON DELETE " (actionText key.onDelete) ++ optionText " ON UPDATE " (actionText key.onUpdate) := by
  have ho : ∀ onDelete onUpdate : Option String,
      String.join (((onDelete.map KeyOption.onDelete).toList ++ (onUpdate.map KeyOption.onUpdate).toList).map
        KeyOption.sql) = optionText " ON DELETE " onDelete ++ optionText " ON UPDATE " onUpdate := by
    intro onDelete onUpdate
    cases onDelete <;> cases onUpdate <;> simp [optionText, KeyOption.sql, String.join]
  rw [clause, Clause.sql_foreignKey, ho, ← String.append_assoc]
  rfl

theorem states_ofGroup (h : rowsOf id rows = first :: rest) :
    States rows first (ofGroup first rest).value.clause.sql where
  written := by
    have hg := isGroup_rowsOf id rows
    rw [h] at hg
    refine ⟨first :: rest, (ofGroup first rest).value.referencedColumns, id_of_rowsOf h ▸ hg, ?_⟩
    have hd : actionText (ofGroup first rest).value.onDelete = Action.statedText first.onDelete := by
      rw [← Action.map_sql_filter, ← Action.value_read]
      rfl
    have hu : actionText (ofGroup first rest).value.onUpdate = Action.statedText first.onUpdate := by
      rw [← Action.map_sql_filter, ← Action.value_read]
      rfl
    rw [sql_clause, hd, hu]
    rfl
  declared := by
    refine ⟨_, readClause_clause _, ?_, ?_⟩
    · have hs := Action.isStated_filter first.onDelete
      rwa [← Action.value_read] at hs
    · have hs := Action.isStated_filter first.onUpdate
      rwa [← Action.value_read] at hs

theorem lines_ofRows (rows : List ForeignKeyRow) :
    (ofRows rows).events.map Event.line =
      (firstRows rows).flatMap fun first => Action.unknownLines first.onDelete ++ Action.unknownLines first.onUpdate := by
  rw [events_ofRows, List.map_flatMap]
  refine List.flatMap_congr fun first _ => ?_
  rw [actionEvents, List.map_append, Action.lines_read, Action.lines_read]

end ForeignKey

/-! ## Tables -/

namespace Table
variable {name : String} {columnRows : List ColumnRow} {keyRows : List ForeignKeyRow} {indexRows : List IndexRow}

/-- Columns are looked at first. Of keys over unknown columns the log still says what their actions are. -/
theorem lines_ofRows (hn : columnRows ≠ []) (ho : IsNumbered columnRows) :
    linesOf Action.unknownMessage (ofRows name columnRows keyRows indexRows).events =
      (ForeignKey.ofRows keyRows).events.map Event.line := by
  have hk : linesOf Action.unknownMessage (ForeignKey.ofRows keyRows).events =
      (ForeignKey.ofRows keyRows).events.map Event.line := by
    refine linesOf_eq_map fun event he => ?_
    obtain ⟨action, rfl⟩ := ForeignKey.eq_unknownAction_of_mem he
    rfl
  have hi : linesOf Action.unknownMessage (Index.ofRows name indexRows).events = [] := by
    refine linesOf_eq_nil fun event he => ?_
    rw [Index.events_ofRows] at he
    obtain ⟨row, -, rfl⟩ := List.mem_map.1 he
    have hm : "Skipping index on expressions, only plain columns can be translated" ≠ Action.unknownMessage := by decide
    exact hm
  rw [ofRows, Column.ofRows_eq_ok_iff.2 ⟨⟨hn, ho⟩, rfl⟩]
  simp only [Traced.events_bind, linesOf_append, hk]
  split
  · exact List.append_nil _
  · rw [Traced.events_bind, linesOf_append, hi]
    exact List.append_nil _

theorem not_reference {clause : Clause} {table : Table}
    (h : clause ∈ table.columns.map (·.clause table.primaryKey) ++ table.primaryKey.clauses)
    (declared : ReferenceDeclaration) : readClause clause.sql.toList ≠ some (.reference declared) := by
  rw [primaryKey_clauses, List.mem_append, List.mem_map, List.mem_map] at h
  rcases h with ⟨column, -, rfl⟩ | ⟨columns, -, rfl⟩
  · rw [Column.readClause_clause]
    exact fun e => nomatch e
  · rw [readClause_primaryKey]
    exact fun e => nomatch e

/-- **Exactly the actions that have an effect are stated, and exactly the unknown ones are reported.** For each key the
row with the smallest `seq` gives both texts. -/
theorem states_actions (keyRows : List ForeignKeyRow) :
    ∃ firsts, LeadingRows keyRows firsts ∧
      ∀ (name : String) (columnRows : List ColumnRow) (indexRows : List IndexRow),
        (columnRows ≠ [] → IsNumbered columnRows →
          linesOf Action.unknownMessage (ofRows name columnRows keyRows indexRows).events =
            firsts.flatMap fun first => Action.unknownLines first.onDelete ++ Action.unknownLines first.onUpdate) ∧
        ∀ table, (ofRows name columnRows keyRows indexRows).value = .ok table →
          ∃ others texts,
            table.createStatement = "CREATE TABLE IF NOT EXISTS " ++ plainIdentifier name ++ " (" ++
              ", ".intercalate (others ++ texts) ++ ");" ∧
            (∀ text ∈ others, ∀ declared, readClause text.toList ≠ some (.reference declared)) ∧
            List.Forall₂ (ForeignKey.States keyRows) firsts texts := by
  refine ⟨ForeignKey.firstRows keyRows, ForeignKey.leadingRows_firstRows keyRows, fun name columnRows indexRows =>
    ⟨fun hn ho => ?_, fun table h => ?_⟩⟩
  · rw [lines_ofRows hn ho, ForeignKey.lines_ofRows]
  · obtain ⟨-, rfl⟩ := ofRows_eq_ok_iff.1 h
    refine ⟨((described name columnRows keyRows indexRows).columns.map
        (·.clause (described name columnRows keyRows indexRows).primaryKey) ++
          (described name columnRows keyRows indexRows).primaryKey.clauses).map Clause.sql,
      (ForeignKey.ofRows keyRows).value.map (·.clause.sql), ?_, ?_, ?_⟩
    · rw [createStatement, createTable_eq_join, clauses, List.map_append, List.map_map]
      rfl
    · intro text ht
      obtain ⟨clause, hc, rfl⟩ := List.mem_map.1 ht
      exact not_reference hc
    · rw [List.forall₂_map_right_iff]
      exact ForeignKey.forall₂_ofRows fun id first rest e => ForeignKey.states_ofGroup e

/-- Two keys, whose rows come mixed and in falling order of `seq`. -/
def mixedKeys : List ForeignKeyRow := [
  ⟨7, 1, "t", "b", some "b", some "SET NULL", some "burn"⟩,
  ⟨3, 0, "u", "a", none, some "\u017fet null", some "no action"⟩,
  ⟨7, 0, "t", "a", some "a", some " explode", some " cascade\u00a0"⟩]

def mixedColumns : List ColumnRow :=
  [⟨1, "b", "", false, none, 0⟩, ⟨0, "a", "", false, none, 0⟩]

theorem states_actions_mixed :
    mixedColumns ≠ [] ∧ IsNumbered mixedColumns ∧
      (ofRows "s" mixedColumns mixedKeys []).value = .ok (described "s" mixedColumns mixedKeys []) ∧
      (described "s" mixedColumns mixedKeys []).createStatement =
        "CREATE TABLE IF NOT EXISTS s (\"a\" TEXT, \"b\" TEXT, " ++
          "FOREIGN KEY (\"a\", \"b\") REFERENCES \"t\"(\"a\", \"b\") ON DELETE CASCADE, " ++
          "FOREIGN KEY (\"a\") REFERENCES \"u\" ON UPDATE SET NULL);" ∧
      linesOf Action.unknownMessage (ofRows "s" mixedColumns mixedKeys []).events =
        [⟨.warning, "Unknown referential action, ignoring it", [("action", .text "explode")]⟩] ∧
      ∃ firsts texts, LeadingRows mixedKeys firsts ∧ List.Forall₂ (ForeignKey.States mixedKeys) firsts texts ∧
        linesOf Action.unknownMessage (ofRows "s" mixedColumns mixedKeys []).events =
          firsts.flatMap fun first => Action.unknownLines first.onDelete ++ Action.unknownLines first.onUpdate := by
  have hn : mixedColumns ≠ [] := by decide
  have ho : IsNumbered mixedColumns := by
    rw [IsNumbered]
    decide
  have ht : (ofRows "s" mixedColumns mixedKeys []).value = .ok (described "s" mixedColumns mixedKeys []) :=
    ofRows_eq_ok_iff.2 ⟨⟨hn, ho, by decide⟩, rfl⟩
  obtain ⟨firsts, hl, hs⟩ := states_actions mixedKeys
  obtain ⟨-, texts, -, -, hf⟩ := (hs "s" mixedColumns []).2 _ ht
  exact ⟨hn, ho, ht, by decide +kernel, by decide +kernel, firsts, texts, hl, hf, (hs "s" mixedColumns []).1 hn ho⟩

end Table

end CatalogDdl
