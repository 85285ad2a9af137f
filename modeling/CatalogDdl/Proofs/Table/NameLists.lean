import CatalogDdl.Database.Inspection
import CatalogDdl.Proofs.Run.Statements

/-! # Lists of names

Names in double quotes, separated by commas, are read back from wherever statements hold them.

* `EndsNames`: whether a text can follow a list of names and be told from it.
* `Part`: fixed words, or a list of names. `Table.parts`, `Index.parts` and `countParts` are the parts of
  statements.
* `NamesEnd`: whether every list of names among parts is followed by a text that can be told from it.
* `ReadsNames`: whether the names of a statement are read back from every list of its parts.

`identifiers_decode` says that what is read is exactly what was written before such a text, that no text can be
taken for two lists, and that nothing in a statement, or behind it, goes on like a list before it.
-/

namespace CatalogDdl
set_option autoImplicit false
open Sql

namespace Sql

/-! ## Ends of lists -/

/-- Whether a text does not go on like the list of names before it. -/
def EndsNames (names : List String) (rest : List Char) : Prop :=
  rest.head? ≠ some '"' ∧ (names ≠ [] → ¬ [',', ' ', '"'] <+: rest)

instance (names : List String) (rest : List Char) : Decidable (EndsNames names rest) :=
  inferInstanceAs (Decidable (_ ∧ (_ → _)))

theorem readIdentifiers_eq_iff {names : List String} {rest : List Char} (h : EndsNames names rest)
    (cs : List Char) : readIdentifiers cs = (names, rest) ↔ cs = (identifiers names).toList ++ rest := by
  constructor
  · intro hr
    exact eq_append_of_readIdentifiers hr h.1
  · rintro rfl
    exact readIdentifiers_identifiers names h.1 h.2

/-- A text can be taken for a list of names, and what follows it, in one way only. -/
theorem identifiers_append_inj {names others : List String} {rest more : List Char} (h : EndsNames names rest)
    (ho : EndsNames others more) (e : (identifiers names).toList ++ rest = (identifiers others).toList ++ more) :
    names = others ∧ rest = more := by
  have hr := (readIdentifiers_eq_iff h _).2 rfl
  rw [e, (readIdentifiers_eq_iff ho _).2 rfl] at hr
  exact Prod.mk.inj hr.symm

theorem identifiers_eq_empty_iff (names : List String) : identifiers names = "" ↔ names = [] := by
  constructor
  · intro h
    have hn : EndsNames names [] := ⟨by simp, fun _ => by decide⟩
    refine (identifiers_append_inj hn (by decide : EndsNames [] []) ?_).1
    rw [h]
    rfl
  · rintro rfl
    rfl

/-- Whether a text ends every list of names before it. -/
def Stops (rest : List Char) : Prop :=
  ∀ names, EndsNames names rest

theorem Stops.of_ne {c : Char} (hq : c ≠ '"') (hc : c ≠ ',') (cs : List Char) : Stops (c :: cs) := by
  intro names
  constructor
  · simpa using hq
  · simp [hc.symm]

theorem Stops.of_comma {c : Char} (hq : c ≠ '"') (cs : List Char) : Stops (',' :: ' ' :: c :: cs) := by
  intro names
  constructor
  · simp
  · simp [hq.symm]

/-! ## Parts of statements -/

inductive Part
  | words (text : String)
  | list (names : List String)
deriving DecidableEq, Repr

def Part.text : Part → List Char
  | words text => text.toList
  | list names => (identifiers names).toList

def partsText (parts : List Part) : List Char :=
  parts.flatMap Part.text

theorem partsText_append (parts more : List Part) : partsText (parts ++ more) = partsText parts ++ partsText more :=
  List.flatMap_append

theorem partsText_cons (part : Part) (parts : List Part) : partsText (part :: parts) = part.text ++ partsText parts :=
  rfl

/-- Whether every list of names stops before what follows it: the next parts, and a text behind them all. -/
def NamesEnd (tail : List Char) : List Part → Prop
  | [] => True
  | .words _ :: parts => NamesEnd tail parts
  | .list _ :: parts => Stops (partsText parts ++ tail) ∧ NamesEnd tail parts

theorem namesEnd_append {tail : List Char} {parts more : List Part} :
    NamesEnd tail (parts ++ more) ↔ NamesEnd (partsText more ++ tail) parts ∧ NamesEnd tail more := by
  induction parts with
  | nil => exact (true_and _).symm.to_iff
  | cons part parts ih =>
    cases part with
    | words text => exact ih
    | list names => rw [List.cons_append, NamesEnd, NamesEnd, ih, partsText_append, List.append_assoc, and_assoc]

/-- Whether a statement has these parts, and every list of names among them is read back, whatever comes behind
the statement. -/
structure ReadsNames (statement : String) (parts : List Part) : Prop where
  text : statement.toList = partsText parts
  reads : ∀ before names after, parts = before ++ .list names :: after → ∀ more,
    readIdentifiers (partsText (.list names :: after) ++ more) = (names, partsText after ++ more)

theorem readsNames_of_namesEnd {statement : String} {parts : List Part} (h : statement.toList = partsText parts)
    (he : ∀ tail, NamesEnd tail parts) : ReadsNames statement parts where
  text := h
  reads before names after e more := by
    have hn := he more
    rw [e, namesEnd_append] at hn
    have hs : Stops (partsText after ++ more) := hn.2.1
    rw [readIdentifiers_eq_iff (hs names), partsText_cons, List.append_assoc]
    rfl

/-! ## Clauses -/

namespace Clause

def referencedParts : List String → List Part
  | [] => []
  | columns => [.words "(", .list columns, .words ")"]

def parts : Clause → List Part
  | column name type options =>
    [.list [name], .words " ", .words type, .words (String.join (options.map ColumnOption.sql))]
  | primaryKey columns => [.words "PRIMARY KEY (", .list columns, .words ")"]
  | foreignKey columns table referenced options =>
    [.words "FOREIGN KEY (", .list columns, .words ") REFERENCES ", .list [table]] ++
      (referencedParts referenced ++ [.words (String.join (options.map KeyOption.sql))])

theorem partsText_referencedParts (columns : List String) :
    partsText (referencedParts columns) = (referencedList columns).toList := by
  cases columns with
  | nil => rfl
  | cons column columns => simp [referencedParts, referencedList, partsText, Part.text, toString]

theorem partsText_parts (clause : Clause) : partsText clause.parts = clause.sql.toList := by
  cases clause with
  | column name type options =>
    rw [sql_column]
    simp [parts, partsText, Part.text, identifiers_singleton, toString]
  | primaryKey columns =>
    rw [sql_primaryKey]
    simp [parts, partsText, Part.text, toString]
  | foreignKey columns table referenced options =>
    rw [sql_foreignKey, parts, partsText_append, partsText_append, partsText_referencedParts]
    simp [partsText, Part.text, identifiers_singleton, toString]

def isReference : Clause → Bool
  | foreignKey _ _ _ _ => true
  | _ => false

def isColumn : Clause → Bool
  | column _ _ _ => true
  | _ => false

/-- Nothing of its own need follow the table that a foreign key refers to. -/
theorem stops_reference {tail : List Char} (h : Stops tail) (referenced : List String) (options : List KeyOption) :
    Stops (partsText (referencedParts referenced ++ [.words (String.join (options.map KeyOption.sql))]) ++ tail) := by
  cases referenced with
  | cons column columns => exact .of_ne (by decide) (by decide) _
  | nil =>
    have e : partsText (referencedParts [] ++ [.words (String.join (options.map KeyOption.sql))]) ++ tail =
        (options.map KeyOption.sql).flatMap String.toList ++ tail := by
      simp [referencedParts, partsText, Part.text]
    rw [e]
    cases options with
    -- The name of the table is the end of the clause: what stops it comes from outside.
    | nil => exact h
    | cons option options =>
      rw [List.map_cons, List.flatMap_cons]
      cases option with
      | onDelete action =>
        rw [KeyOption.sql, String.toList_append]
        exact .of_ne (by decide) (by decide) _
      | onUpdate action =>
        rw [KeyOption.sql, String.toList_append]
        exact .of_ne (by decide) (by decide) _

theorem namesEnd_referencedParts (tail : List Char) (columns : List String) :
    NamesEnd tail (referencedParts columns) := by
  cases columns with
  | nil => trivial
  | cons column columns => exact ⟨.of_ne (by decide) (by decide) _, trivial⟩

theorem namesEnd_parts {clause : Clause} {tail : List Char} (h : clause.isReference = true → Stops tail) :
    NamesEnd tail clause.parts := by
  cases clause with
  | column name type options => exact ⟨.of_ne (by decide) (by decide) _, trivial⟩
  | primaryKey columns => exact ⟨.of_ne (by decide) (by decide) _, trivial⟩
  | foreignKey columns table referenced options =>
    rw [parts, namesEnd_append, namesEnd_append]
    refine ⟨⟨.of_ne (by decide) (by decide) _, ?_⟩, namesEnd_referencedParts _ _, trivial⟩
    exact ⟨stops_reference (h rfl) referenced options, trivial⟩

end Clause

/-- The parts of clauses behind another clause. -/
def moreParts (clauses : List Clause) : List Part :=
  clauses.flatMap fun clause => .words ", " :: clause.parts

def joinedParts : List Clause → List Part
  | [] => []
  | clause :: clauses => clause.parts ++ moreParts clauses

theorem partsText_joinedParts (clauses : List Clause) :
    partsText (joinedParts clauses) = (", ".intercalate (clauses.map Clause.sql)).toList := by
  have hm (clauses : List Clause) :
      partsText (moreParts clauses) = (String.join ((clauses.map Clause.sql).map (", " ++ ·))).toList := by
    induction clauses with
    | nil => rfl
    | cons clause clauses ih =>
      have e : moreParts (clause :: clauses) = .words ", " :: (clause.parts ++ moreParts clauses) := rfl
      rw [e, partsText_cons, partsText_append, ih, clause.partsText_parts, List.map_cons, List.map_cons,
        String.join_cons, String.toList_append, String.toList_append, List.append_assoc]
      rfl
  cases clauses with
  | nil => rfl
  | cons clause clauses =>
    rw [joinedParts, partsText_append, clause.partsText_parts, hm, List.map_cons, intercalate_cons,
      String.toList_append]

/-- Whether no column comes behind a foreign key, so that the name of a table stands before no other name. -/
def IsOrdered (clauses : List Clause) : Prop :=
  clauses.Pairwise fun clause next => clause.isReference = true → next.isColumn = false

theorem isOrdered_append {own references : List Clause} (ho : ∀ clause ∈ own, clause.isReference = false)
    (hr : ∀ clause ∈ references, clause.isColumn = false) : IsOrdered (own ++ references) := by
  have hn {clause : Clause} (hc : clause ∈ own) (h : clause.isReference = true) : False := by
    rw [ho clause hc] at h
    contradiction
  rw [IsOrdered, List.pairwise_append]
  refine ⟨?_, ?_, ?_⟩
  · exact List.pairwise_of_forall_mem_list fun clause hc _ _ h => (hn hc h).elim
  · exact List.pairwise_of_forall_mem_list fun _ _ next hm _ => hr next hm
  · exact fun clause hc _ _ h => (hn hc h).elim

theorem stops_moreParts {clauses : List Clause} (h : ∀ clause ∈ clauses, clause.isColumn = false) {tail : List Char}
    (ht : Stops tail) : Stops (partsText (moreParts clauses) ++ tail) := by
  cases clauses with
  | nil => exact ht
  | cons clause clauses =>
    have hc := h clause List.mem_cons_self
    cases clause with
    | column name type options => cases hc
    | primaryKey columns => exact .of_comma (by decide) _
    | foreignKey columns table referenced options => exact .of_comma (by decide) _

theorem namesEnd_joinedParts {clauses : List Clause} (h : IsOrdered clauses) {tail : List Char} (ht : Stops tail) :
    NamesEnd tail (joinedParts clauses) := by
  cases clauses with
  | nil => trivial
  | cons clause clauses =>
    rw [joinedParts]
    induction clauses generalizing clause with
    | nil =>
      rw [namesEnd_append]
      exact ⟨Clause.namesEnd_parts fun _ => ht, trivial⟩
    | cons next clauses ih =>
      obtain ⟨hc, hn⟩ := List.pairwise_cons.1 h
      rw [namesEnd_append]
      refine ⟨Clause.namesEnd_parts fun hr => ?_, ih next hn⟩
      -- Behind a foreign key there is no column, whose name would go on like the name of the table.
      exact stops_moreParts (fun other ho => hc other ho hr) ht

end Sql

/-! ## Statements -/

namespace Table
variable (table : Table)

/-- The name of a table as it is created, bare or quoted. -/
def namePart : Part :=
  if isPlain table.name then .words table.name else .list [table.name]

def parts : List Part :=
  [.words "CREATE TABLE IF NOT EXISTS ", table.namePart, .words " ("] ++ (joinedParts table.clauses ++ [.words ");"])

theorem isOrdered_clauses : IsOrdered table.clauses := by
  refine isOrdered_append ?_ ?_
  · intro clause hc
    rw [List.mem_append, List.mem_map] at hc
    rcases hc with ⟨column, -, rfl⟩ | hc
    · rfl
    · rw [primaryKey_clauses] at hc
      obtain ⟨columns, -, rfl⟩ := List.mem_map.1 hc
      rfl
  · intro clause hc
    obtain ⟨key, -, rfl⟩ := List.mem_map.1 hc
    rfl

theorem readsNames : ReadsNames table.createStatement table.parts := by
  refine readsNames_of_namesEnd ?_ fun tail => ?_
  · have hn : table.namePart.text = (plainIdentifier table.name).toList := by
      rw [namePart, plainIdentifier]
      split
      · rfl
      · rw [Part.text, identifiers_singleton]
    have hp : partsText [.words "CREATE TABLE IF NOT EXISTS ", table.namePart, .words " ("] =
        "CREATE TABLE IF NOT EXISTS ".toList ++ ((plainIdentifier table.name).toList ++ " (".toList) := by
      rw [← hn]
      rfl
    rw [createStatement, createTable_eq_join, parts, partsText_append, partsText_append, partsText_joinedParts, hp]
    simp [partsText, Part.text]
  · rw [parts, namesEnd_append, namesEnd_append]
    refine ⟨?_, namesEnd_joinedParts table.isOrdered_clauses (.of_ne (by decide) (by decide) _), trivial⟩
    rw [namePart]
    split
    · trivial
    · exact ⟨.of_ne (by decide) (by decide) _, trivial⟩

end Table

namespace Index
variable (index : Index) (table : String)

def parts : List Part :=
  [.words ("CREATE " ++ index.kind ++ " IF NOT EXISTS "), .list [index.name], .words " ON ", .list [table],
    .words " (", .list index.columns, .words ");"]

theorem readsNames : ReadsNames (index.createStatement table) (index.parts table) := by
  refine readsNames_of_namesEnd ?_ fun tail => ?_
  · rw [toList_createStatement]
    simp [parts, partsText, Part.text, identifiers_singleton]
  · exact ⟨.of_ne (by decide) (by decide) _, .of_ne (by decide) (by decide) _, .of_ne (by decide) (by decide) _,
      trivial⟩

end Index

namespace Database

def countParts (name : String) : List Part :=
  [.words countStart, .list [name], .words ";"]

theorem readsNames_countStatement (name : String) : ReadsNames (countStatement name) (countParts name) := by
  refine readsNames_of_namesEnd ?_ fun tail => ?_
  · simp [countStatement, countParts, partsText, Part.text, identifiers_singleton]
  · exact ⟨.of_ne (by decide) (by decide) _, trivial⟩

end Database

/-! ## All lists -/

/-- **Lists of names are prefix-decodable.** Before a text that does not go on like it, a list is read from exactly
what was written for it, and no text is two lists at once. Only a list of no names is empty, so a list of one empty
name is written down like any other. And wherever the statement of a table or of an index, or the one that counts
rows, holds a list, nothing that comes behind the list changes what is read of it. -/
theorem identifiers_decode :
    (∀ names rest, EndsNames names rest → ∀ cs,
        readIdentifiers cs = (names, rest) ↔ cs = (identifiers names).toList ++ rest) ∧
      (∀ names others rest more, EndsNames names rest → EndsNames others more →
        (identifiers names).toList ++ rest = (identifiers others).toList ++ more → names = others ∧ rest = more) ∧
      (∀ names, identifiers names = "" ↔ names = []) ∧
      (∀ table : Table, ReadsNames table.createStatement table.parts) ∧
      (∀ (index : Index) (table : String), ReadsNames (index.createStatement table) (index.parts table)) ∧
      ∀ name, ReadsNames (Database.countStatement name) (Database.countParts name) :=
  ⟨fun _ _ h => readIdentifiers_eq_iff h, fun _ _ _ _ => identifiers_append_inj, identifiers_eq_empty_iff,
    Table.readsNames, Index.readsNames, Database.readsNames_countStatement⟩

/-- Names that hold what stands around names. -/
def tangled : List String :=
  ["", "\"", "\", \"", ")"]

theorem identifiers_decode_tangled :
    identifiers tangled = "\"\", \"\"\"\", \"\"\", \"\"\", \")\"" ∧
      EndsNames tangled ") REFERENCES \"t\", \"u\"".toList ∧
      readIdentifiers ((identifiers tangled).toList ++ ") REFERENCES \"t\", \"u\"".toList) =
        (tangled, ") REFERENCES \"t\", \"u\"".toList) ∧
      (identifiers ["", ""]).toList ≠ (identifiers ["\", \""]).toList := by
  have he : EndsNames tangled ") REFERENCES \"t\", \"u\"".toList := by decide
  refine ⟨by decide +kernel, he, (identifiers_decode.1 _ _ he _).2 rfl, fun e => ?_⟩
  have hn : (["", ""] : List String) = ["\", \""] :=
    (identifiers_decode.2.1 _ _ [] [] (by decide) (by decide) (congrArg (· ++ []) e)).1
  contradiction

end CatalogDdl
