import Mathlib.Data.List.Basic
import CatalogDdl.Output.Server

/-! # Documents are executed as a whole or not at all

* `Server.executes`: whether one statement is executed; `Server.ExecutesAll`: whether all of a list are.
* `Server.Course`: the ways in which a conversation can go, by the step that fails first.
* `Store`: what a server has stored, and the transaction under way. `durable` is what is left of it in the end.
* `AllOrNothing`: what is promised of a conversation; `Server.apply_allOrNothing` says that it is kept.

A transaction that is still open when a conversation ends is rolled back. A server that hangs up at a step has
failed at it.
-/

namespace CatalogDdl
set_option autoImplicit false

/-! ## Statements -/

namespace Server
variable (server : Server)

def executes (number : Nat) (sql : String) : Bool :=
  canSend sql && server.accepts (.statement number)

/-- Whether all statements are executed, the first of them with the given number. -/
def ExecutesAll (number : Nat) (statements : List String) : Prop :=
  ∀ k sql, statements[k]? = some sql → server.executes (number + k) sql = true

variable {server}

theorem executesAll_nil (number : Nat) : server.ExecutesAll number [] := by
  intro k sql h
  simp at h

theorem executesAll_cons {number : Nat} {sql : String} {rest : List String} :
    server.ExecutesAll number (sql :: rest) ↔
      server.executes number sql = true ∧ server.ExecutesAll (number + 1) rest := by
  constructor
  · intro h
    refine ⟨h 0 sql rfl, fun k other ho => ?_⟩
    have e : number + 1 + k = number + (k + 1) := by omega
    rw [e]
    exact h (k + 1) other ho
  · rintro ⟨hs, hr⟩ k other ho
    cases k with
    | zero =>
      obtain rfl : sql = other := Option.some.inj ho
      exact hs
    | succ k =>
      have e : number + (k + 1) = number + 1 + k := by omega
      rw [e]
      exact hr k other ho

theorem not_executesAll {statements : List String} {k : Nat} {sql : String} (hk : statements[k]? = some sql)
    (hs : server.executes k sql = false) : ¬ server.ExecutesAll 0 statements := by
  intro ha
  have ho := ha k sql hk
  rw [Nat.zero_add, hs] at ho
  contradiction

end Server

def ServerEvent.executed (sql : String) : ServerEvent :=
  ⟨.statement sql, true⟩

/-- What a server sees of a statement that fails, which is nothing if it cannot be sent. -/
def ServerEvent.refused (sql : String) : List ServerEvent :=
  if Server.canSend sql then [⟨.statement sql, false⟩] else []

namespace Server
variable {server : Server}

theorem step_ok {α : Type} (step : Step) (failure : Failure) (next : Session α) :
    Session.step step true failure next = ⟨next.result, ⟨step, true⟩ :: next.seen⟩ := rfl

theorem execute_cons_ok {number : Nat} {sql : String} (h : server.executes number sql = true) (rest : List String) :
    server.execute number (sql :: rest) =
      ⟨(server.execute (number + 1) rest).result, .executed sql :: (server.execute (number + 1) rest).seen⟩ := by
  rw [executes, Bool.and_eq_true] at h
  rw [execute, if_pos h.1, h.2]
  rfl

theorem execute_cons_error {number : Nat} {sql : String} (h : server.executes number sql = false)
    (rest : List String) :
    server.execute number (sql :: rest) = ⟨.error (statementFailure sql), ServerEvent.refused sql⟩ := by
  rw [execute, ServerEvent.refused]
  by_cases hs : canSend sql = true
  · rw [executes, hs, Bool.true_and] at h
    rw [if_pos hs, if_pos hs, h]
    rfl
  · rw [if_neg hs, if_neg hs]

/-- Executing statements ends at the first that fails, or with the commit. -/
theorem execute_cases (server : Server) (number : Nat) (statements : List String) :
    (∃ done sql rest, statements = done ++ sql :: rest ∧ server.ExecutesAll number done ∧
      server.executes (number + done.length) sql = false ∧
      server.execute number statements =
        ⟨.error (statementFailure sql), done.map .executed ++ ServerEvent.refused sql⟩) ∨
    (server.ExecutesAll number statements ∧
      server.execute number statements =
        ⟨if server.accepts .commit then .ok () else .error (.output .commit),
          statements.map .executed ++ [⟨.commit, server.accepts .commit⟩]⟩) := by
  induction statements generalizing number with
  | nil =>
    refine .inr ⟨executesAll_nil number, ?_⟩
    rw [execute]
    cases server.accepts .commit <;> rfl
  | cons sql statements ih =>
    cases hs : server.executes number sql with
    | false =>
      refine .inl ⟨[], sql, statements, rfl, executesAll_nil number, hs, ?_⟩
      rw [execute_cons_error hs]
      rfl
    | true =>
      rw [execute_cons_ok hs]
      rcases ih (number + 1) with ⟨done, failing, rest, rfl, hd, hf, e⟩ | ⟨ha, e⟩
      · have hn : number + (sql :: done).length = number + 1 + done.length := by
          rw [List.length_cons]
          omega
        refine .inl ⟨sql :: done, failing, rest, rfl, executesAll_cons.2 ⟨hs, hd⟩, hn ▸ hf, ?_⟩
        rw [e]
        rfl
      · refine .inr ⟨executesAll_cons.2 ⟨hs, ha⟩, ?_⟩
        rw [e]
        rfl

/-! ## Conversations -/

/-- The ways in which a conversation about statements can go, by the step that fails first. -/
inductive Course (server : Server) (statements : List String) : Session Unit → Prop
  | unreachable : server.isReachable = false → Course server statements ⟨.error (.output .connect), []⟩
  | notBegun : server.isReachable = true → server.accepts .begin = false →
      Course server statements ⟨.error (.output .begin), [⟨.begin, false⟩]⟩
  | failed (done : List String) (sql : String) (rest : List String) : server.isReachable = true →
      server.accepts .begin = true → statements = done ++ sql :: rest → server.ExecutesAll 0 done →
      server.executes done.length sql = false →
      Course server statements
        ⟨.error (statementFailure sql), ⟨.begin, true⟩ :: (done.map .executed ++ ServerEvent.refused sql)⟩
  | notCommitted : server.isReachable = true → server.accepts .begin = true → server.ExecutesAll 0 statements →
      server.accepts .commit = false →
      Course server statements
        ⟨.error (.output .commit), ⟨.begin, true⟩ :: (statements.map .executed ++ [⟨.commit, false⟩])⟩
  | committed : server.isReachable = true → server.accepts .begin = true → server.ExecutesAll 0 statements →
      server.accepts .commit = true →
      Course server statements ⟨.ok (), ⟨.begin, true⟩ :: (statements.map .executed ++ [⟨.commit, true⟩])⟩

theorem value_apply (server : Server) (document : Document) :
    (server.apply document).value = server.connected (server.transact document) := by
  rw [apply]
  split <;> rfl

theorem course_apply (server : Server) (document : Document) :
    Course server document.statements (server.apply document).value := by
  rw [value_apply, connected]
  cases hr : server.isReachable with
  | false => exact .unreachable hr
  | true =>
    rw [if_pos rfl, transact]
    cases hb : server.accepts .begin with
    | false => exact .notBegun hr hb
    | true =>
      rw [step_ok]
      rcases server.execute_cases 0 document.statements with ⟨done, sql, rest, e, hd, hf, h⟩ | ⟨ha, h⟩
      · rw [Nat.zero_add] at hf
        rw [h]
        exact .failed done sql rest hr hb e hd hf
      · rw [h]
        cases hc : server.accepts .commit with
        | false => exact .notCommitted hr hb ha hc
        | true => exact .committed hr hb ha hc

end Server

/-! ## What is stored -/

/-- The statements that a server has stored for good, and those of the transaction under way, if there is one. -/
structure Store where
  stored : List String
  pending : Option (List String)
deriving DecidableEq, Repr

namespace Store

/-- The store after one more step. Outside of a transaction a statement is stored at once. -/
def step (store : Store) (event : ServerEvent) : Store :=
  match event.step, event.ok, store.pending with
  | .begin, true, _ => { store with pending := some [] }
  | .statement sql, true, some pending => { store with pending := some (pending ++ [sql]) }
  | .statement sql, true, none => { store with stored := store.stored ++ [sql] }
  | .commit, true, some pending => ⟨store.stored ++ pending, none⟩
  | _, _, _ => store

def run (store : Store) (seen : List ServerEvent) : Store :=
  seen.foldl step store

theorem run_append (store : Store) (seen more : List ServerEvent) :
    store.run (seen ++ more) = (store.run seen).run more :=
  List.foldl_append

theorem run_executed (stored pending statements : List String) :
    run ⟨stored, some pending⟩ (statements.map .executed) = ⟨stored, some (pending ++ statements)⟩ := by
  induction statements generalizing pending with
  | nil => rw [List.append_nil]; rfl
  | cons sql statements ih =>
    have hs : step ⟨stored, some pending⟩ (.executed sql) = ⟨stored, some (pending ++ [sql])⟩ := rfl
    change run (step ⟨stored, some pending⟩ (.executed sql)) (statements.map .executed) = _
    rw [hs, ih, List.append_assoc, List.singleton_append]

theorem run_refused (store : Store) (sql : String) : store.run (ServerEvent.refused sql) = store := by
  rw [ServerEvent.refused]
  split <;> rfl

end Store

/-- What is stored when a conversation is over. A transaction that is still open is rolled back. -/
def durable (seen : List ServerEvent) : List String :=
  (Store.run ⟨[], none⟩ seen).stored

/-! ## All or nothing -/

def statementsSeen (seen : List ServerEvent) : List String :=
  seen.filterMap fun event =>
    match event.step with
    | .statement sql => some sql
    | _ => none

/-! ### What is seen -/

theorem statementsSeen_append (seen more : List ServerEvent) :
    statementsSeen (seen ++ more) = statementsSeen seen ++ statementsSeen more :=
  List.filterMap_append

theorem statementsSeen_executed (statements : List String) :
    statementsSeen (statements.map .executed) = statements := by
  induction statements with
  | nil => rfl
  | cons sql statements ih =>
    change sql :: statementsSeen (statements.map .executed) = _
    rw [ih]

theorem statementsSeen_refused (sql : String) :
    statementsSeen (ServerEvent.refused sql) = if Server.canSend sql then [sql] else [] := by
  rw [ServerEvent.refused]
  split <;> rfl

theorem step_of_mem_executed {statements : List String} {event : ServerEvent}
    (h : event ∈ statements.map ServerEvent.executed) : event.ok = true ∧ ∃ sql, event.step = .statement sql := by
  obtain ⟨sql, -, rfl⟩ := List.mem_map.1 h
  exact ⟨rfl, sql, rfl⟩

theorem step_of_mem_refused {sql : String} {event : ServerEvent} (h : event ∈ ServerEvent.refused sql) :
    event.step = .statement sql := by
  rw [ServerEvent.refused] at h
  split at h
  · rw [List.mem_singleton.1 h]
  · contradiction

theorem length_refused (sql : String) : (ServerEvent.refused sql).length ≤ 1 := by
  rw [ServerEvent.refused]
  split
  · exact Nat.le_refl 1
  · exact Nat.zero_le 1

theorem stops_of_ok {events last : List ServerEvent} (h : ∀ event ∈ events, event.ok = true) (hl : last.length ≤ 1)
    {before after : List ServerEvent} {event : ServerEvent} (e : events ++ last = before ++ event :: after)
    (hf : event.ok = false) : after = [] := by
  rcases List.append_eq_append_iff.1 e with ⟨more, rfl, hm⟩ | ⟨more, rfl, hm⟩
  · have hn := congrArg List.length hm
    simp only [List.length_append, List.length_cons] at hn
    exact List.eq_nil_of_length_eq_zero (by omega)
  · cases more with
    | nil =>
      have hn := congrArg List.length hm
      simp only [List.nil_append, List.length_cons] at hn
      exact List.eq_nil_of_length_eq_zero (by omega)
    | cons first more =>
      obtain rfl : event = first := (List.cons_eq_cons.1 hm).1
      have ho := h event (List.mem_append_right _ List.mem_cons_self)
      rw [hf] at ho
      contradiction

theorem getElem?_failing (done rest : List String) (sql : String) :
    (done ++ sql :: rest)[done.length]? = some sql := by
  rw [List.getElem?_append_right (Nat.le_refl _), Nat.sub_self]
  rfl

theorem first_failure_unique {server : Server} {statements done rest : List String} {failing sql : String} {k : Nat}
    (e : statements = done ++ failing :: rest) (hd : server.ExecutesAll 0 done)
    (hf : server.executes done.length failing = false) (hk : statements[k]? = some sql)
    (ha : server.ExecutesAll 0 (statements.take k)) (hs : server.executes k sql = false) :
    done = statements.take k ∧ failing = sql := by
  -- All statements before either of them are executed, so neither comes before the other.
  have hn : k = done.length := by
    rcases Nat.lt_trichotomy k done.length with hl | hl | hl
    · have hg : done[k]? = some sql := by rwa [e, List.getElem?_append_left hl] at hk
      exact absurd hd (Server.not_executesAll hg hs)
    · exact hl
    · have hg : (statements.take k)[done.length]? = some failing := by
        rw [List.getElem?_take_of_lt hl, e, getElem?_failing]
      exact absurd ha (Server.not_executesAll hg hf)
  subst hn
  rw [e, getElem?_failing] at hk
  refine ⟨?_, Option.some.inj hk⟩
  rw [e, List.take_left]

namespace Server.Course
variable {server : Server} {statements : List String} {session : Session Unit}

theorem step_of_mem_rest {done : List String} {last : List ServerEvent} {event : ServerEvent}
    (hl : ∀ other ∈ last, other.step ≠ .begin) (h : event ∈ done.map .executed ++ last) : event.step ≠ .begin := by
  rcases List.mem_append.1 h with h | h
  · obtain ⟨-, sql, e⟩ := step_of_mem_executed h
    rw [e]
    exact Step.noConfusion
  · exact hl event h

theorem one_begin (h : Course server statements session) (hr : server.isReachable = true) :
    ∃ rest, session.seen = ⟨.begin, server.accepts .begin⟩ :: rest ∧ ∀ event ∈ rest, event.step ≠ .begin := by
  cases h with
  | unreachable hn =>
    rw [hr] at hn
    contradiction
  | notBegun _ hb =>
    rw [hb]
    exact ⟨[], rfl, by simp⟩
  | failed done sql rest _ hb =>
    rw [hb]
    refine ⟨_, rfl, fun event he => step_of_mem_rest (fun other ho => ?_) he⟩
    rw [step_of_mem_refused ho]
    exact Step.noConfusion
  | notCommitted _ hb =>
    rw [hb]
    exact ⟨_, rfl, fun event he => step_of_mem_rest (by simp) he⟩
  | committed _ hb =>
    rw [hb]
    exact ⟨_, rfl, fun event he => step_of_mem_rest (by simp) he⟩

theorem statementsSeen_course (done : List String) (last : List ServerEvent) :
    statementsSeen (⟨.begin, true⟩ :: (done.map .executed ++ last)) = done ++ statementsSeen last := by
  change statementsSeen (done.map .executed ++ last) = _
  rw [statementsSeen_append, statementsSeen_executed]

theorem in_order (h : Course server statements session) : statementsSeen session.seen <+: statements := by
  have hp (ok : Bool) :
      statementsSeen (⟨.begin, true⟩ :: (statements.map .executed ++ [⟨.commit, ok⟩])) = statements := by
    rw [statementsSeen_course]
    exact List.append_nil statements
  cases h with
  | unreachable => exact List.nil_prefix
  | notBegun => exact List.nil_prefix
  | failed done sql rest _ _ e =>
    rw [statementsSeen_course, statementsSeen_refused, e]
    split
    · exact ⟨rest, by simp⟩
    · exact ⟨sql :: rest, by simp⟩
  | notCommitted => exact (hp false).symm ▸ List.prefix_rfl
  | committed => exact (hp true).symm ▸ List.prefix_rfl

theorem stops_at_failure (h : Course server statements session) {before after : List ServerEvent}
    {event : ServerEvent} (e : session.seen = before ++ event :: after) (hf : event.ok = false) : after = [] := by
  have hx (done : List String) : ∀ other ∈ ⟨.begin, true⟩ :: done.map ServerEvent.executed, other.ok = true := by
    intro other ho
    rcases List.mem_cons.1 ho with rfl | ho
    · rfl
    · exact (step_of_mem_executed ho).1
  have hc (ok : Bool) : [(⟨.commit, ok⟩ : ServerEvent)].length ≤ 1 := Nat.le_refl 1
  cases h with
  | unreachable => simp at e
  | notBegun =>
    have hl := congrArg List.length e
    simp only [List.length_append, List.length_cons, List.length_nil] at hl
    exact List.eq_nil_of_length_eq_zero (by omega)
  | failed done sql => exact stops_of_ok (hx done) (length_refused sql) e hf
  | notCommitted => exact stops_of_ok (hx statements) (hc false) e hf
  | committed => exact stops_of_ok (hx statements) (hc true) e hf

theorem commit_not_mem {done : List String} {sql : String} {ok : Bool} :
    (⟨.commit, ok⟩ : ServerEvent) ∉ ⟨.begin, true⟩ :: (done.map .executed ++ ServerEvent.refused sql) := by
  intro hm
  rcases List.mem_cons.1 hm with e | hm
  · exact Step.noConfusion (ServerEvent.mk.inj e).1
  · rcases List.mem_append.1 hm with hm | hm
    · obtain ⟨-, sql, e⟩ := step_of_mem_executed hm
      exact Step.noConfusion e
    · exact Step.noConfusion (step_of_mem_refused hm)

theorem commit_mem {done : List String} {ok answer : Bool} :
    (⟨.commit, ok⟩ : ServerEvent) ∈ ⟨.begin, true⟩ :: (done.map .executed ++ [⟨.commit, answer⟩]) ↔
      ok = answer := by
  constructor
  · intro hm
    rcases List.mem_cons.1 hm with e | hm
    · exact Step.noConfusion (ServerEvent.mk.inj e).1
    · rcases List.mem_append.1 hm with hm | hm
      · obtain ⟨-, sql, e⟩ := step_of_mem_executed hm
        exact Step.noConfusion e
      · exact (ServerEvent.mk.inj (List.mem_singleton.1 hm)).2
  · rintro rfl
    exact List.mem_cons_of_mem _ (List.mem_append_right _ List.mem_cons_self)

theorem commit_asked_iff (h : Course server statements session) :
    (∃ ok, (⟨.commit, ok⟩ : ServerEvent) ∈ session.seen) ↔
      server.isReachable = true ∧ server.accepts .begin = true ∧ server.ExecutesAll 0 statements := by
  cases h with
  | unreachable hr => simp [hr]
  | notBegun hr hb => simp [hb]
  | failed done sql rest hr hb e _ hf =>
    have hk : statements[done.length]? = some sql := e ▸ getElem?_failing done rest sql
    exact iff_of_false (fun ⟨ok, hm⟩ => commit_not_mem hm) fun ⟨_, _, ha⟩ => not_executesAll hk hf ha
  | notCommitted hr hb ha => exact iff_of_true ⟨false, commit_mem.2 rfl⟩ ⟨hr, hb, ha⟩
  | committed hr hb ha => exact iff_of_true ⟨true, commit_mem.2 rfl⟩ ⟨hr, hb, ha⟩

theorem error_ne_ok (failure : Failure) : (Except.error failure : Except Failure Unit) ≠ .ok () := by
  intro e
  contradiction

theorem ok_iff_committed (h : Course server statements session) :
    session.result = .ok () ↔ (⟨.commit, true⟩ : ServerEvent) ∈ session.seen := by
  cases h with
  | unreachable => exact iff_of_false (error_ne_ok _) (by simp)
  | notBegun => exact iff_of_false (error_ne_ok _) (by simp)
  | failed => exact iff_of_false (error_ne_ok _) commit_not_mem
  | notCommitted => exact iff_of_false (error_ne_ok _) fun hm => Bool.noConfusion (commit_mem.1 hm)
  | committed => exact iff_of_true rfl (commit_mem.2 rfl)

theorem durable_course (done : List String) (last : List ServerEvent) :
    durable (⟨.begin, true⟩ :: (done.map .executed ++ last)) = (Store.run ⟨[], some done⟩ last).stored := by
  change (Store.run ⟨[], some []⟩ (done.map .executed ++ last)).stored = _
  rw [Store.run_append, Store.run_executed, List.nil_append]

theorem durable_eq (h : Course server statements session) :
    (session.result = .ok () → durable session.seen = statements) ∧
      (session.result ≠ .ok () → durable session.seen = []) := by
  cases h with
  | unreachable => exact ⟨fun e => absurd e (error_ne_ok _), fun _ => rfl⟩
  | notBegun => exact ⟨fun e => absurd e (error_ne_ok _), fun _ => rfl⟩
  | failed =>
    refine ⟨fun e => absurd e (error_ne_ok _), fun _ => ?_⟩
    rw [durable_course, Store.run_refused]
  | notCommitted =>
    refine ⟨fun e => absurd e (error_ne_ok _), fun _ => ?_⟩
    rw [durable_course]
    rfl
  | committed =>
    refine ⟨fun _ => ?_, fun hn => absurd rfl hn⟩
    rw [durable_course]
    rfl

theorem statement_failure (h : Course server statements session) {k : Nat} {sql : String}
    (hr : server.isReachable = true) (hb : server.accepts .begin = true) (hk : statements[k]? = some sql)
    (ha : server.ExecutesAll 0 (statements.take k)) (hs : server.executes k sql = false) :
    session.result = .error (.outputBy (.statement sql) (.query sql)) ∧
      statementsSeen session.seen = statements.take k ++ (if canSend sql then [sql] else []) := by
  have hall := not_executesAll hk hs
  cases h with
  | unreachable hn =>
    rw [hr] at hn
    contradiction
  | notBegun _ hn =>
    rw [hb] at hn
    contradiction
  | failed done failing rest _ _ e hd hf =>
    obtain ⟨rfl, rfl⟩ := first_failure_unique e hd hf hk ha hs
    exact ⟨rfl, by rw [statementsSeen_course, statementsSeen_refused]⟩
  | notCommitted _ _ hn => exact absurd hn hall
  | committed _ _ hn => exact absurd hn hall

end Server.Course

/-- The text of a failure names the statement that failed. -/
theorem failure_message (sql : String) :
    (Failure.outputBy (.statement sql) (.query sql)).message =
      s!"Failed to write the generated ddl: Failed to execute `{sql}`" := by
  have e : "Failed to write the generated ddl: Failed to execute `" =
      "Failed to write the generated ddl: " ++ "Failed to execute `" := by decide +kernel
  change "Failed to write the generated ddl: " ++ ("Failed to execute `" ++ sql ++ "`") =
    "Failed to write the generated ddl: Failed to execute `" ++ sql ++ "`"
  rw [e, String.append_assoc, String.append_assoc, String.append_assoc]

/-- What is promised of the execution of statements on a server. -/
structure AllOrNothing (server : Server) (statements : List String) (outcome : Traced (Session Unit)) : Prop where
  nothing_before_login : server.isReachable = false → outcome.value.seen = []
  one_begin : server.isReachable = true →
    ∃ rest, outcome.value.seen = ⟨.begin, server.accepts .begin⟩ :: rest ∧ ∀ event ∈ rest, event.step ≠ .begin
  in_order : statementsSeen outcome.value.seen <+: statements
  stops_at_failure : ∀ before event after,
    outcome.value.seen = before ++ event :: after → event.ok = false → after = []
  commit_asked_iff : (∃ ok, ⟨.commit, ok⟩ ∈ outcome.value.seen) ↔
    server.isReachable = true ∧ server.accepts .begin = true ∧ server.ExecutesAll 0 statements
  ok_iff_committed : outcome.value.result = .ok () ↔ ⟨.commit, true⟩ ∈ outcome.value.seen
  durable_of_ok : outcome.value.result = .ok () → durable outcome.value.seen = statements
  durable_of_error : outcome.value.result ≠ .ok () → durable outcome.value.seen = []
  statement_failure : ∀ k sql, server.isReachable = true → server.accepts .begin = true →
    statements[k]? = some sql → server.ExecutesAll 0 (statements.take k) → server.executes k sql = false →
      (outcome.value.result = .error (.outputBy (.statement sql) (.query sql)) ∧
        (Failure.outputBy (.statement sql) (.query sql)).message =
          s!"Failed to write the generated ddl: Failed to execute `{sql}`") ∧
        statementsSeen outcome.value.seen = statements.take k ++ (if Server.canSend sql then [sql] else [])
  logged_of_ok : outcome.value.result = .ok () → outcome.events = [.applied statements.length]
  logged_of_error : outcome.value.result ≠ .ok () → outcome.events = []

theorem Server.events_apply (server : Server) (document : Document) :
    ((server.apply document).value.result = .ok () →
      (server.apply document).events = [.applied document.statements.length]) ∧
    ((server.apply document).value.result ≠ .ok () → (server.apply document).events = []) := by
  rw [apply, Document.statements, List.length_map]
  split
  · next e => exact ⟨fun _ => rfl, fun hn => absurd e hn⟩
  · next e => exact ⟨fun ho => by rw [e] at ho; contradiction, fun _ => rfl⟩

/-- **A document is executed as a whole or not at all, and in its order**, whatever the server does. -/
theorem Server.apply_allOrNothing (server : Server) (document : Document) :
    AllOrNothing server document.statements (server.apply document) := by
  have hc := server.course_apply document
  have hl := server.events_apply document
  refine ⟨fun hr => ?_, hc.one_begin, hc.in_order, fun _ _ _ => hc.stops_at_failure, hc.commit_asked_iff,
    hc.ok_iff_committed, hc.durable_eq.1, hc.durable_eq.2, fun k sql hr hb hk ha hs => ?_, hl.1, hl.2⟩
  · rw [value_apply, connected, hr]
    rfl
  · obtain ⟨he, hv⟩ := hc.statement_failure hr hb hk ha hs
    exact ⟨⟨he, failure_message sql⟩, hv⟩

end CatalogDdl
