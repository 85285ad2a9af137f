import CatalogDdl.Proofs.Sql.Name
import CatalogDdl.Proofs.Sql.Nesting
import CatalogDdl.Table.Basic

/-! # Declarations

What a `CREATE TABLE` statement declares, read from its text alone.

* `ColumnDeclaration`, `ReferenceDeclaration`: what a column and a foreign key declare.
* `TableDeclaration`: the columns of a table, its key where that is a clause of its own, and its foreign keys.
* `readColumn`, `readKey`, `readReference`: the readers of the three kinds of clauses.
* `TableDeclaration.read`: the reader of a whole statement. It refuses a text with anything left over.
-/

namespace CatalogDdl.Sql
set_option autoImplicit false

/-! ## What is declared -/

/-- A column: `isKey` and `notNull` say whether it is marked so. -/
structure ColumnDeclaration where
  name : String
  type : String
  isKey : Bool
  notNull : Bool
  defaultExpression : Option String
deriving DecidableEq, Repr

structure ReferenceDeclaration where
  columns : List String
  table : String
  referenced : List String
  onDelete : Option Action
  onUpdate : Option Action
deriving DecidableEq, Repr

inductive ClauseDeclaration
  | column (column : ColumnDeclaration)
  | key (columns : List String)
  | reference (reference : ReferenceDeclaration)
deriving DecidableEq, Repr

/-- A table: `key` holds the columns of a key that is declared apart from them. -/
structure TableDeclaration where
  name : String
  columns : List ColumnDeclaration
  key : Option (List String)
  references : List ReferenceDeclaration
deriving DecidableEq, Repr

/-! ## Columns -/

def targetTypes : List TargetType :=
  [.smallInt, .integer, .bigInt, .text, .varchar, .real, .doublePrecision, .numeric, .decimal, .boolean, .date,
    .timestamp, .bytea]

def readSize : List Char → String × List Char
  | '(' :: cs =>
    match cs.dropWhile Char.isDigit with
    | ')' :: rest => (s!"({String.ofList (cs.takeWhile Char.isDigit)})", rest)
    | _ => ("", '(' :: cs)
  | cs => ("", cs)

def readType (cs : List Char) : Option (String × List Char) :=
  (readWord TargetType.sql targetTypes cs).map fun (t, rest) => (t.sql ++ (readSize rest).1, (readSize rest).2)

/-- Whether a fixed text comes next, and what follows it if it does. -/
def readMark (word : String) (cs : List Char) : Bool × List Char :=
  match after? word cs with
  | some rest => (true, rest)
  | none => (false, cs)

/-- Reads a default expression, which goes on to the end of the clause. -/
def readDefault (cs : List Char) : Option (Option String) :=
  if cs = [] then some none else (after? " DEFAULT " cs).map fun rest => some (String.ofList rest)

def readOptions (cs : List Char) : Option (Bool × Bool × Option String) :=
  let (isKey, cs) := readMark " PRIMARY KEY" cs
  let (notNull, cs) := readMark " NOT NULL" cs
  (readDefault cs).map fun expression => (isKey, notNull, expression)

def readColumn (cs : List Char) : Option ColumnDeclaration := do
  let (name, cs) ← readIdentifier cs
  let cs ← after? " " cs
  let (type, cs) ← readType cs
  let (isKey, notNull, expression) ← readOptions cs
  pure ⟨name, type, isKey, notNull, expression⟩

/-! ## Keys -/

def readKey (cs : List Char) : Option (List String) := do
  let cs ← after? "PRIMARY KEY (" cs
  let (columns, cs) := readIdentifiers cs
  if cs = [')'] then some columns else none

/-- Reads a list of referenced columns. Without parentheses there are none. -/
def readReferenced : List Char → Option (List String × List Char)
  | '(' :: cs => (after? ")" (readIdentifiers cs).2).map fun rest => ((readIdentifiers cs).1, rest)
  | cs => some ([], cs)

/-- Reads the action that a fixed text announces, if it comes next. -/
def readAction (word : String) (cs : List Char) : Option (Option Action × List Char) :=
  match after? word cs with
  | none => some (none, cs)
  | some rest => (readWord Action.sql Action.all rest).map fun (action, more) => (some action, more)

def readReference (cs : List Char) : Option ReferenceDeclaration := do
  let cs ← after? "FOREIGN KEY (" cs
  let (columns, cs) := readIdentifiers cs
  let cs ← after? ") REFERENCES " cs
  let (table, cs) ← readIdentifier cs
  let (referenced, cs) ← readReferenced cs
  let (onDelete, cs) ← readAction " ON DELETE " cs
  let (onUpdate, cs) ← readAction " ON UPDATE " cs
  if cs = [] then some ⟨columns, table, referenced, onDelete, onUpdate⟩ else none

/-! ## Statements -/

/-- Reads a clause. Its first character says of what kind it is. -/
def readClause (cs : List Char) : Option ClauseDeclaration :=
  match cs.head? with
  | some '"' => (readColumn cs).map .column
  | some 'P' => (readKey cs).map .key
  | _ => (readReference cs).map .reference

/-- The foreign keys of a list of clauses that holds nothing else. -/
def references? : List ClauseDeclaration → Option (List ReferenceDeclaration)
  | [] => some []
  | .reference reference :: rest => (references? rest).map (reference :: ·)
  | _ => none

namespace TableDeclaration

/-- A table from its clauses: first the columns, then the key, then the foreign keys. -/
def ofClauses (name : String) : List ClauseDeclaration → Option TableDeclaration
  | .column column :: rest =>
    (ofClauses name rest).map fun table => { table with columns := column :: table.columns }
  | .key columns :: rest => (references? rest).map fun references => ⟨name, [], some columns, references⟩
  | rest => (references? rest).map fun references => ⟨name, [], none, references⟩

def read (text : String) : Option TableDeclaration := do
  let cs ← after? "CREATE TABLE IF NOT EXISTS " text.toList
  let (name, cs) ← readTableName cs
  let cs ← after? " (" cs
  let (texts, cs) := clauseTexts cs
  if cs = [')', ';'] then (texts.mapM readClause).bind (ofClauses name) else none

end TableDeclaration

/-! ## Reading what was written -/

theorem readSize_none {rest : List Char} (h : rest.head? ≠ some '(') : readSize rest = ("", rest) := by
  cases rest with
  | nil => rfl
  | cons c cs => simp [readSize, ne_of_head?_ne h]

theorem isDigit_toString (n : Nat) {c : Char} (h : c ∈ (toString n).toList) : c.isDigit = true := by
  rw [Nat.toString_eq_repr, Nat.toList_repr] at h
  exact Nat.isDigit_of_mem_toDigits (by omega) (by omega) h

theorem readSize_some (size : Nat) (rest : List Char) :
    readSize ('(' :: (toString size).toList ++ ')' :: rest) = (s!"({size})", rest) := by
  have hd : ∀ c ∈ (toString size).toList, c.isDigit = true := fun c hc => isDigit_toString size hc
  have hr : ∀ c ∈ (')' :: rest).head?, c.isDigit = false := by simp
  rw [List.cons_append, readSize, dropWhile_append_stop hd hr, takeWhile_append_stop hd hr, String.ofList_toList]
  rfl

theorem readType_name (t : TargetType) (rest : List Char) :
    readType (t.sql.toList ++ rest) = some (t.sql ++ (readSize rest).1, (readSize rest).2) := by
  have hf : ∀ s ∈ targetTypes, ∀ t ∈ targetTypes, s ≠ t → ¬ s.sql.toList <+: t.sql.toList := by decide
  have ht : t ∈ targetTypes := by cases t <;> decide
  rw [readType, readWord_text hf ht]
  rfl

theorem readType_sql (t : ColumnType) {rest : List Char} (h : rest.head? ≠ some '(') :
    readType (t.sql.toList ++ rest) = some (t.sql, rest) := by
  rw [ColumnType.sql]
  cases t.size with
  | none => rw [readType_name, readSize_none h, String.append_empty]
  | some size =>
    have e : (s!"{t.target.sql}({size})").toList ++ rest =
        t.target.sql.toList ++ ('(' :: (toString size).toList ++ ')' :: rest) := by simp [toString]
    rw [e, readType_name, readSize_some]
    simp [toString, String.append_assoc]

theorem readMark_if {word : String} {rest : List Char} (h : after? word rest = none) (marked : Bool) :
    readMark word ((if marked then word.toList else []) ++ rest) = (marked, rest) := by
  cases marked with
  | true =>
    rw [if_pos rfl, readMark, after?_append]
  | false =>
    have e : (if false = true then word.toList else []) ++ rest = rest := rfl
    rw [e, readMark, h]

def defaultOptionText : Option String → List Char
  | none => []
  | some text => " DEFAULT ".toList ++ text.toList

theorem readDefault_some (text : String) :
    readDefault (" DEFAULT ".toList ++ text.toList) = some (some text) := by
  have hne : " DEFAULT ".toList ++ text.toList ≠ [] := List.append_ne_nil_of_left_ne_nil (by decide) _
  rw [readDefault, if_neg hne, after?_append, Option.map_some, String.ofList_toList]

theorem readDefault_defaultOptionText (expression : Option String) :
    readDefault (defaultOptionText expression) = some expression := by
  cases expression with
  | none => rfl
  | some text => exact readDefault_some text

def optionsText (isKey notNull : Bool) (expression : Option String) : List Char :=
  (if isKey then " PRIMARY KEY".toList else []) ++
    ((if notNull then " NOT NULL".toList else []) ++ defaultOptionText expression)

theorem after?_defaultOptionText {word : String} (h : after? word [] = none)
    (hw : ¬ word.toList <+: " DEFAULT ".toList) (hd : ¬ " DEFAULT ".toList <+: word.toList)
    (expression : Option String) : after? word (defaultOptionText expression) = none := by
  cases expression with
  | none => exact h
  | some text => exact after?_eq_none hw hd _

theorem readOptions_optionsText (isKey notNull : Bool) (expression : Option String) :
    readOptions (optionsText isKey notNull expression) = some (isKey, notNull, expression) := by
  have hn : after? " NOT NULL" (defaultOptionText expression) = none :=
    after?_defaultOptionText rfl (by decide) (by decide) expression
  have hk : after? " PRIMARY KEY" ((if notNull then " NOT NULL".toList else []) ++ defaultOptionText expression) =
      none := by
    cases notNull with
    | true => exact after?_eq_none (by decide) (by decide) _
    | false => exact after?_defaultOptionText rfl (by decide) (by decide) expression
  rw [optionsText, readOptions, readMark_if hk]
  simp only [readMark_if hn, readDefault_defaultOptionText, Option.map_some]

theorem eq_blank_of_head? {cs : List Char} (h : cs.head? = none ∨ cs.head? = some ' ') :
    ∀ c ∈ cs.head?, c = ' ' := by
  intro c hc
  rcases h with h | h
  · rw [h] at hc
    cases hc
  · rw [h] at hc
    exact (Option.some.inj hc).symm

theorem head?_ne_of_blank {cs : List Char} {d : Char} (h : ∀ c ∈ cs.head?, c = ' ') (hd : d ≠ ' ') :
    cs.head? ≠ some d := by
  intro e
  exact hd (h d e)

theorem head?_optionsText (isKey notNull : Bool) (expression : Option String) :
    ∀ c ∈ (optionsText isKey notNull expression).head?, c = ' ' := by
  have h : (optionsText isKey notNull expression).head? = none ∨
      (optionsText isKey notNull expression).head? = some ' ' := by
    cases isKey with
    | true => exact .inr rfl
    | false =>
      cases notNull with
      | true => exact .inr rfl
      | false =>
        cases expression with
        | none => exact .inl rfl
        | some text => exact .inr rfl
  exact eq_blank_of_head? h

/-- The text of an action with what announces it. -/
def announced (word : String) : Option Action → List Char
  | none => []
  | some action => word.toList ++ action.sql.toList

theorem readAction_announced {word : String} (action : Option Action) {rest : List Char}
    (h : after? word rest = none) : readAction word (announced word action ++ rest) = some (action, rest) := by
  cases action with
  | none =>
    rw [announced, List.nil_append, readAction, h]
  | some action =>
    have hf : ∀ a ∈ Action.all, ∀ b ∈ Action.all, a ≠ b → ¬ a.sql.toList <+: b.sql.toList := by decide
    have ha : action ∈ Action.all := by cases action <;> decide
    rw [announced, List.append_assoc, readAction, after?_append]
    simp only [readWord_text hf ha, Option.map_some]

def actionsText (onDelete onUpdate : Option Action) : List Char :=
  announced " ON DELETE " onDelete ++ announced " ON UPDATE " onUpdate

theorem head?_actionsText (onDelete onUpdate : Option Action) :
    ∀ c ∈ (actionsText onDelete onUpdate).head?, c = ' ' := by
  have h : (actionsText onDelete onUpdate).head? = none ∨ (actionsText onDelete onUpdate).head? = some ' ' := by
    cases onDelete with
    | some action => exact .inr rfl
    | none =>
      cases onUpdate with
      | none => exact .inl rfl
      | some action => exact .inr rfl
  exact eq_blank_of_head? h

theorem readReferenced_none {cs : List Char} (h : cs.head? ≠ some '(') : readReferenced cs = some ([], cs) := by
  cases cs with
  | nil => rfl
  | cons c cs => simp [readReferenced, ne_of_head?_ne h]

theorem readReferenced_some (names : List String) (rest : List Char) :
    readReferenced ('(' :: (identifiers names).toList ++ ')' :: rest) = some (names, rest) := by
  rw [List.cons_append, readReferenced, readIdentifiers_parenthesis]
  simp [after?]

end CatalogDdl.Sql
