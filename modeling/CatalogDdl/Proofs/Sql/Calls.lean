import Mathlib.Data.List.Basic
import CatalogDdl.Sql.Statement

/-! # Writing call by call

A statement is written by calls. Some begin a clause, and the others add an option to the clause before them.

* `Call`, with the text that it writes; `CreateTable.call`: what a call does to a statement under way.
* `Clause.calls`: the calls for a clause and its options. `CreateTable.ofCalls`: the statement after calls.
* `afterCall?`, `clausesOf?`: the clauses so far, as a list. A call that no clause can take leads nowhere.
* `IsJoin`: a statement under way holds its opening and the clauses so far, joined by commas, and knows whether
  there are any.

Each call takes a join of clauses to the join of the clauses after it (`IsJoin.afterCall`), so all calls do
(`isJoin_ofCalls`), and a finished statement is the join of all its clauses.
-/

namespace CatalogDdl.Sql
set_option autoImplicit false

/-! ## Calls -/

inductive Call
  | column (name type : String)
  | primaryKey (columns : List String)
  | foreignKey (columns : List String) (table : String) (referenced : List String)
  | columnOption (option : ColumnOption)
  | keyOption (option : KeyOption)
deriving DecidableEq, Repr

namespace Call

/-- The clause that a call begins, still without options. -/
def clause? : Call → Option Clause
  | column name type => some (.column name type [])
  | primaryKey columns => some (.primaryKey columns)
  | foreignKey columns table referenced => some (.foreignKey columns table referenced [])
  | columnOption _ | keyOption _ => none

def beginsClause (call : Call) : Bool :=
  call.clause?.isSome

/-- What a call writes, but for the comma before a clause. -/
def text : Call → String
  | column name type => s!"{identifier name} {type}"
  | primaryKey columns => s!"PRIMARY KEY ({identifiers columns})"
  | foreignKey columns table referenced =>
    s!"FOREIGN KEY ({identifiers columns}) REFERENCES {identifier table}{Clause.referencedList referenced}"
  | columnOption option => option.sql
  | keyOption option => option.sql

end Call

def CreateTable.call (statement : CreateTable) (call : Call) : CreateTable :=
  (if call.beginsClause then statement.openClause else statement).write call.text

/-- The statement about a table after calls, without its end. -/
def CreateTable.ofCalls (name : String) (calls : List Call) : CreateTable :=
  calls.foldl CreateTable.call (.start name)

/-- The calls for a clause: one that begins it, and one for each option. -/
def Clause.calls : Clause → List Call
  | column name type options => .column name type :: options.map .columnOption
  | primaryKey columns => [.primaryKey columns]
  | foreignKey columns table referenced options =>
    .foreignKey columns table referenced :: options.map .keyOption

/-! ## What one call does -/

namespace CreateTable
variable (statement : CreateTable) (call : Call)

theorem text_call :
    (statement.call call).text =
      statement.text ++ (if call.beginsClause && statement.hasClause then ", " else "") ++ call.text := by
  rw [CreateTable.call, openClause]
  cases call.beginsClause with
  | false => simp [write]
  | true => cases h : statement.hasClause <;> simp [write]

theorem hasClause_call : (statement.call call).hasClause = (call.beginsClause || statement.hasClause) := by
  rw [CreateTable.call, openClause]
  cases call.beginsClause with
  | false => rfl
  | true => cases h : statement.hasClause <;> simp [write, h]

/-- Calls write behind what stands there already. -/
theorem text_prefix_foldl (calls : List Call) :
    statement.text.toList <+: (calls.foldl CreateTable.call statement).text.toList := by
  induction calls generalizing statement with
  | nil => exact List.prefix_refl _
  | cons call calls ih =>
    have hc : statement.text.toList <+: (statement.call call).text.toList := by
      rw [text_call, String.toList_append, String.toList_append, List.append_assoc]
      exact List.prefix_append _ _
    exact hc.trans (ih (statement.call call))

/-- To add a clause is to make its calls. -/
theorem add_eq_foldl (statement : CreateTable) (clause : Clause) :
    statement.add clause = clause.calls.foldl CreateTable.call statement := by
  cases clause with
  | column name type options =>
    rw [add, Clause.optionTexts, Clause.calls, List.foldl_cons, List.foldl_map, List.foldl_map]
    rfl
  | primaryKey columns => rfl
  | foreignKey columns table referenced options =>
    rw [add, Clause.optionTexts, Clause.calls, List.foldl_cons, List.foldl_map, List.foldl_map]
    rfl

end CreateTable

/-! ## The clauses so far -/

/-- A clause with one more option, if it takes one of this kind. -/
def Clause.withOption? : Clause → Call → Option Clause
  | column name type options, .columnOption option => some (.column name type (options ++ [option]))
  | foreignKey columns table referenced options, .keyOption option =>
    some (.foreignKey columns table referenced (options ++ [option]))
  | _, _ => none

/-- The clauses after one more call. An option goes to the last clause. -/
def afterCall? (clauses : List Clause) (call : Call) : Option (List Clause) :=
  match call.clause? with
  | some clause => some (clauses ++ [clause])
  | none => clauses.getLast?.bind fun last => (last.withOption? call).map (clauses.dropLast ++ [·])

def clausesOf? (calls : List Call) : Option (List Clause) :=
  calls.foldlM afterCall? []

section
variable {clauses more : List Clause} {call : Call}

theorem afterCall?_begins {clause : Clause} (h : call.clause? = some clause) (clauses : List Clause) :
    afterCall? clauses call = some (clauses ++ [clause]) := by
  rw [afterCall?, h]

theorem afterCall?_option {last next : Clause} (h : call.clause? = none) (hn : last.withOption? call = some next)
    (front : List Clause) : afterCall? (front ++ [last]) call = some (front ++ [next]) := by
  rw [afterCall?, h, List.getLast?_concat, List.dropLast_concat, Option.bind_some, hn]
  rfl

theorem afterCall?_cases (h : afterCall? clauses call = some more) :
    (∃ clause, call.clause? = some clause ∧ more = clauses ++ [clause]) ∨
      ∃ front last next, call.clause? = none ∧ clauses = front ++ [last] ∧ last.withOption? call = some next ∧
        more = front ++ [next] := by
  rw [afterCall?] at h
  cases hc : call.clause? with
  | some clause =>
    rw [hc] at h
    exact .inl ⟨clause, rfl, (Option.some.inj h).symm⟩
  | none =>
    rw [hc] at h
    obtain ⟨last, hl, h⟩ := Option.bind_eq_some_iff.1 h
    obtain ⟨front, rfl⟩ := List.getLast?_eq_some_iff.1 hl
    obtain ⟨next, hn, rfl⟩ := Option.map_eq_some_iff.1 h
    exact .inr ⟨front, last, next, rfl, rfl, hn, by rw [List.dropLast_concat]⟩

/-- The first call begins a clause, and no call takes one away. -/
theorem ne_nil_of_afterCall? (h : afterCall? clauses call = some more) : more ≠ [] := by
  obtain ⟨clause, -, rfl⟩ | ⟨front, last, next, -, -, -, rfl⟩ := afterCall?_cases h
  · exact List.append_ne_nil_of_right_ne_nil _ (List.cons_ne_nil _ _)
  · exact List.append_ne_nil_of_right_ne_nil _ (List.cons_ne_nil _ _)

end

theorem isEmpty_clausesOf? {calls : List Call} {clauses : List Clause} (h : clausesOf? calls = some clauses) :
    clauses.isEmpty = calls.isEmpty := by
  obtain rfl | ⟨earlier, call, rfl⟩ := List.eq_nil_or_concat' calls
  · obtain rfl : [] = clauses := Option.some.inj h
    rfl
  · rw [clausesOf?, List.foldlM_append] at h
    obtain ⟨before, -, h⟩ := Option.bind_eq_some_iff.1 h
    rw [List.foldlM_cons] at h
    obtain ⟨after, ha, h⟩ := Option.bind_eq_some_iff.1 h
    obtain rfl : after = clauses := Option.some.inj h
    rw [List.isEmpty_eq_false_iff.2 (ne_nil_of_afterCall? ha)]
    simp

/-- Options are added one by one to the clause that was begun. -/
theorem foldlM_options {α : Type} {clause : List α → Clause} {option : α → Call}
    (hb : ∀ a, (option a).clause? = none)
    (ho : ∀ done a, (clause done).withOption? (option a) = some (clause (done ++ [a]))) (front : List Clause)
    (done options : List α) :
    (options.map option).foldlM afterCall? (front ++ [clause done]) = some (front ++ [clause (done ++ options)]) := by
  induction options generalizing done with
  | nil =>
    rw [List.append_nil]
    rfl
  | cons a options ih =>
    rw [List.map_cons, List.foldlM_cons, afterCall?_option (hb a) (ho done a)]
    exact (ih (done ++ [a])).trans (by rw [List.append_assoc, List.singleton_append])

theorem Clause.foldlM_calls (clause : Clause) (front : List Clause) :
    clause.calls.foldlM afterCall? front = some (front ++ [clause]) := by
  cases clause with
  | column name type options =>
    rw [calls, List.foldlM_cons, afterCall?_begins rfl]
    exact foldlM_options (fun _ => rfl) (fun _ _ => rfl) front [] options
  | primaryKey columns => rfl
  | foreignKey columns table referenced options =>
    rw [calls, List.foldlM_cons, afterCall?_begins rfl]
    exact foldlM_options (fun _ => rfl) (fun _ _ => rfl) front [] options

/-- Clauses with any options come of the calls for them. -/
theorem clausesOf?_calls (clauses : List Clause) : clausesOf? (clauses.flatMap Clause.calls) = some clauses := by
  -- Generalized from no clauses to any that are there already, for the induction.
  have hf : ∀ front : List Clause,
      (clauses.flatMap Clause.calls).foldlM afterCall? front = some (front ++ clauses) := by
    induction clauses with
    | nil =>
      intro front
      rw [List.append_nil]
      rfl
    | cons clause clauses ih =>
      intro front
      rw [List.flatMap_cons, List.foldlM_append, clause.foldlM_calls]
      exact (ih (front ++ [clause])).trans (by rw [List.append_assoc, List.singleton_append])
  exact hf []

/-! ## Joined clauses -/

structure IsJoin (name : String) (clauses : List Clause) (statement : CreateTable) : Prop where
  text : statement.text = (CreateTable.start name).text ++ ", ".intercalate (clauses.map Clause.sql)
  hasClause : statement.hasClause = !clauses.isEmpty

theorem intercalate_concat (separator text : String) (texts : List String) :
    separator.intercalate (texts ++ [text]) =
      separator.intercalate texts ++ (if texts.isEmpty then "" else separator) ++ text := by
  cases texts with
  | nil => simp
  | cons first texts =>
    rw [String.intercalate_append_of_ne_nil (by simp) (by simp), String.intercalate_singleton]
    rfl

theorem Call.text_of_clause? {call : Call} {clause : Clause} (h : call.clause? = some clause) :
    call.text = clause.sql := by
  cases call with
  | column name type =>
    cases h
    exact String.append_empty.symm
  | primaryKey columns =>
    cases h
    exact String.append_empty.symm
  | foreignKey columns table referenced =>
    cases h
    exact String.append_empty.symm
  | columnOption option => cases h
  | keyOption option => cases h

theorem Clause.texts_withOption? {clause next : Clause} {call : Call} (h : clause.withOption? call = some next) :
    next.head = clause.head ∧ next.optionTexts = clause.optionTexts ++ [call.text] := by
  cases clause with
  | column name type options =>
    cases call with
    | columnOption option =>
      cases h
      exact ⟨rfl, List.map_append⟩
    | _ => cases h
  | primaryKey columns => cases h
  | foreignKey columns table referenced options =>
    cases call with
    | keyOption option =>
      cases h
      exact ⟨rfl, List.map_append⟩
    | _ => cases h

theorem Clause.sql_withOption? {clause next : Clause} {call : Call} (h : clause.withOption? call = some next) :
    next.sql = clause.sql ++ call.text := by
  obtain ⟨hh, ho⟩ := texts_withOption? h
  rw [sql, sql, hh, ho, String.join_append, String.join_cons, String.join_nil, String.append_empty,
    String.append_assoc]

section
variable {name : String} {clauses more : List Clause} {statement : CreateTable} {call : Call}

theorem isJoin_start (name : String) : IsJoin name [] (.start name) where
  text := String.append_empty.symm
  hasClause := rfl

/-- A call joins what it writes to the clauses before it: as one more clause, or to the last of them. -/
theorem IsJoin.afterCall (h : IsJoin name clauses statement) (hc : afterCall? clauses call = some more) :
    IsJoin name more (statement.call call) := by
  obtain ⟨clause, hb, rfl⟩ | ⟨front, last, next, hb, rfl, hn, rfl⟩ := afterCall?_cases hc
  · have hb' : call.beginsClause = true := by rw [Call.beginsClause, hb, Option.isSome_some]
    constructor
    -- The comma that is written is the one that joins, as the flag says whether there are clauses.
    · rw [CreateTable.text_call, h.text, h.hasClause, hb', Call.text_of_clause? hb, List.map_append,
        List.map_singleton, intercalate_concat, List.isEmpty_map]
      cases clauses <;> simp [String.append_assoc]
    · rw [CreateTable.hasClause_call, hb']
      simp
  · have hb' : call.beginsClause = false := by rw [Call.beginsClause, hb, Option.isSome_none]
    constructor
    -- Only the text of the last clause grows, and it stands at the end.
    · rw [CreateTable.text_call, h.text, hb', List.map_append, List.map_append, List.map_singleton,
        List.map_singleton, intercalate_concat, intercalate_concat, Clause.sql_withOption? hn]
      simp [String.append_assoc]
    · rw [CreateTable.hasClause_call, hb', h.hasClause]
      cases front <;> rfl

theorem isJoin_foldl {calls : List Call} (h : IsJoin name clauses statement)
    (hc : calls.foldlM afterCall? clauses = some more) :
    IsJoin name more (calls.foldl CreateTable.call statement) := by
  induction calls generalizing clauses statement with
  | nil =>
    obtain rfl : clauses = more := Option.some.inj hc
    exact h
  | cons call calls ih =>
    rw [List.foldlM_cons] at hc
    obtain ⟨next, hn, hc⟩ := Option.bind_eq_some_iff.1 hc
    exact ih (h.afterCall hn) hc

theorem isJoin_ofCalls {calls : List Call} (h : clausesOf? calls = some clauses) :
    IsJoin name clauses (CreateTable.ofCalls name calls) :=
  isJoin_foldl (isJoin_start name) h

end

/-! ## Finished statements -/

theorem Clause.sql_eq_join (clause : Clause) : clause.sql = String.join (clause.calls.map Call.text) := by
  cases clause with
  | column name type options =>
    rw [calls, List.map_cons, List.map_map, String.join_cons]
    rfl
  | primaryKey columns =>
    rw [calls, List.map_singleton, String.join_cons]
    rfl
  | foreignKey columns table referenced options =>
    rw [calls, List.map_cons, List.map_map, String.join_cons]
    rfl

namespace CreateTable
variable (name : String)

theorem ofCalls_append (earlier later : List Call) :
    ofCalls name (earlier ++ later) = later.foldl CreateTable.call (ofCalls name earlier) :=
  List.foldl_append

/-- Behind the first calls of a statement there is a clause if there are any calls. -/
theorem hasClause_ofCalls {earlier later : List Call} {clauses : List Clause}
    (h : clausesOf? (earlier ++ later) = some clauses) : (ofCalls name earlier).hasClause = !earlier.isEmpty := by
  rw [clausesOf?, List.foldlM_append] at h
  obtain ⟨before, hb, -⟩ := Option.bind_eq_some_iff.1 h
  rw [(isJoin_ofCalls hb).hasClause, isEmpty_clausesOf? hb]

theorem createTable_eq_ofCalls (clauses : List Clause) :
    createTable name clauses = (ofCalls name (clauses.flatMap Clause.calls)).finish := by
  have hf : add = fun statement clause => clause.calls.foldl CreateTable.call statement := by
    funext statement clause
    exact statement.add_eq_foldl clause
  rw [createTable, ofCalls, List.foldl_flatMap, hf]

theorem finish_ofCalls (clauses : List Clause) :
    (ofCalls name (clauses.flatMap Clause.calls)).finish =
      "CREATE TABLE IF NOT EXISTS " ++ plainIdentifier name ++ " (" ++ ", ".intercalate (clauses.map Clause.sql) ++
        ");" := by
  rw [finish, (isJoin_ofCalls (clausesOf?_calls clauses)).text]
  rfl

/-- **A statement that is written call by call is its clauses joined by commas**, in the order of the calls. The
text of a clause is that of its own calls. A call writes behind what stands there already, and a comma comes
before its text exactly if it begins a clause and is not the first. -/
theorem ofCalls_eq_join (clauses : List Clause) :
    createTable name clauses = (ofCalls name (clauses.flatMap Clause.calls)).finish ∧
      (ofCalls name (clauses.flatMap Clause.calls)).finish =
        "CREATE TABLE IF NOT EXISTS " ++ plainIdentifier name ++ " (" ++
          ", ".intercalate (clauses.map fun clause => String.join (clause.calls.map Call.text)) ++ ");" ∧
      ∀ earlier call later, clauses.flatMap Clause.calls = earlier ++ call :: later →
        (ofCalls name (earlier ++ [call])).text =
            (ofCalls name earlier).text ++ (if call.beginsClause && !earlier.isEmpty then ", " else "") ++
              call.text ∧
          (ofCalls name (earlier ++ [call])).text.toList <+:
            (ofCalls name (clauses.flatMap Clause.calls)).finish.toList := by
  have hc := clausesOf?_calls clauses
  have hs : clauses.map Clause.sql = clauses.map fun clause => String.join (clause.calls.map Call.text) :=
    List.map_congr_left fun clause _ => clause.sql_eq_join
  refine ⟨createTable_eq_ofCalls name clauses, by rw [finish_ofCalls, hs], fun earlier call later e => ?_⟩
  have hf : (ofCalls name earlier).hasClause = !earlier.isEmpty := hasClause_ofCalls name (e ▸ hc)
  have hn : ofCalls name (earlier ++ [call]) = (ofCalls name earlier).call call := ofCalls_append name earlier [call]
  have ha : clauses.flatMap Clause.calls = earlier ++ [call] ++ later := by
    rw [e, List.append_assoc, List.singleton_append]
  have hp : (ofCalls name (earlier ++ [call])).text.toList <+:
      (ofCalls name (clauses.flatMap Clause.calls)).text.toList := by
    rw [ha, ofCalls_append name (earlier ++ [call])]
    exact text_prefix_foldl _ later
  constructor
  · rw [hn, text_call, hf]
  · rw [finish, String.toList_append]
    exact hp.trans (List.prefix_append _ _)

/-- Clauses in an unusual order, with repeated options, and with commas in a name and in a default value. -/
def scattered : List Clause := [
  .foreignKey ["a"] "t" [] [.onDelete "CASCADE", .onDelete "SET NULL"],
  .column "x, \"y" "TEXT" [.defaultTo "', '", .notNull],
  .primaryKey []]

theorem ofCalls_eq_join_scattered :
    (ofCalls "T" (scattered.flatMap Clause.calls)).finish =
        "CREATE TABLE IF NOT EXISTS \"T\" (FOREIGN KEY (\"a\") REFERENCES \"t\" ON DELETE CASCADE" ++
          " ON DELETE SET NULL, \"x, \"\"y\" TEXT DEFAULT ', ' NOT NULL, PRIMARY KEY ());" ∧
      scattered.flatMap Clause.calls = [.foreignKey ["a"] "t" [], .keyOption (.onDelete "CASCADE"),
        .keyOption (.onDelete "SET NULL")] ++ .column "x, \"y" "TEXT" ::
          [.columnOption (.defaultTo "', '"), .columnOption .notNull, .primaryKey []] ∧
      (ofCalls "T" [.foreignKey ["a"] "t" [], .keyOption (.onDelete "CASCADE"), .keyOption (.onDelete "SET NULL"),
        .column "x, \"y" "TEXT"]).text =
          (ofCalls "T" [.foreignKey ["a"] "t" [], .keyOption (.onDelete "CASCADE"),
            .keyOption (.onDelete "SET NULL")]).text ++ ", " ++ "\"x, \"\"y\" TEXT" :=
  have h := ofCalls_eq_join "T" scattered
  ⟨h.2.1.trans (by decide +kernel), rfl, (h.2.2 _ _ _ rfl).1⟩

end CreateTable

end CatalogDdl.Sql
