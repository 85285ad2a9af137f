import CatalogDdl.Proofs.Table.Reading

/-! # What is reported while a table is read

* `Event.line`: an event as a line of the log. `linesOf`: the lines that bear one message.
* `ForeignKey.firstRows`: the rows whose actions count, one for each key.
* `ForeignKey.events_ofRows`, `Index.events_ofRows`: what rows of the two kinds report, in order.
* `Table.events_of_ok`: what is reported of a table that can be read. `Table.events_of_error`: what is reported of
  the others is about their actions.
-/

namespace CatalogDdl
set_option autoImplicit false

/-! ## Lines -/

structure LogLine where
  level : Event.Level
  message : String
  fields : List (String × Event.Field)
deriving DecidableEq, Repr

def Event.line (event : Event) : LogLine :=
  ⟨event.level, event.message, event.fields⟩

/-- The lines of a log that bear a message, in order. -/
def linesOf (message : String) (events : List Event) : List LogLine :=
  (events.map Event.line).filter (·.message == message)

section
variable {message : String} {events : List Event}

theorem linesOf_append (events more : List Event) :
    linesOf message (events ++ more) = linesOf message events ++ linesOf message more := by
  rw [linesOf, List.map_append, List.filter_append]
  rfl

theorem linesOf_flatMap {α : Type} (f : α → List Event) (items : List α) :
    linesOf message (items.flatMap f) = items.flatMap fun item => linesOf message (f item) := by
  induction items with
  | nil => rfl
  | cons item items ih => rw [List.flatMap_cons, linesOf_append, ih, List.flatMap_cons]

theorem linesOf_eq_nil (h : ∀ event ∈ events, event.message ≠ message) : linesOf message events = [] := by
  rw [linesOf, List.filter_eq_nil_iff]
  intro line hl
  obtain ⟨event, he, rfl⟩ := List.mem_map.1 hl
  simpa [Event.line] using h event he

theorem linesOf_eq_map (h : ∀ event ∈ events, event.message = message) :
    linesOf message events = events.map Event.line := by
  rw [linesOf, List.filter_eq_self]
  intro line hl
  obtain ⟨event, he, rfl⟩ := List.mem_map.1 hl
  simpa [Event.line] using h event he

end

/-! ## Actions -/

theorem Action.eq_unknownAction_of_mem {text : Option String} {event : Event} (h : event ∈ (read text).events) :
    ∃ action, event = .unknownAction action := by
  cases text with
  | none => exact absurd h List.not_mem_nil
  | some text =>
    rw [read, parse] at h
    split at h
    · exact absurd h List.not_mem_nil
    · split at h
      · exact absurd h List.not_mem_nil
      · exact ⟨_, List.mem_singleton.1 h⟩

theorem linesOf_unknownAction {message : String} {events : List Event}
    (h : ∀ event ∈ events, ∃ action, event = .unknownAction action)
    (hm : message ≠ "Unknown referential action, ignoring it") : linesOf message events = [] := by
  refine linesOf_eq_nil fun event he => ?_
  obtain ⟨action, rfl⟩ := h event he
  exact hm.symm

namespace ForeignKey

/-- The first row of each key, in the order of the keys. -/
def firstRows (rows : List ForeignKeyRow) : List ForeignKeyRow :=
  (groups rows).filterMap List.head?

/-- What is reported of the actions of a key, given its first row. -/
def actionEvents (first : ForeignKeyRow) : List Event :=
  (Action.read first.onDelete).events ++ (Action.read first.onUpdate).events

theorem events_ofGroup (first : ForeignKeyRow) (rest : List ForeignKeyRow) :
    (ofGroup first rest).events = actionEvents first := by
  rw [ofGroup, Traced.events_bind, Traced.events_bind, Traced.events_pure, List.append_nil]
  rfl

theorem events_go (groups : List (List ForeignKeyRow)) :
    (ofRows.go groups).events = (groups.filterMap List.head?).flatMap actionEvents := by
  induction groups with
  | nil => rfl
  | cons group more ih =>
    cases group with
    | nil => exact ih
    | cons first rest =>
      rw [ofRows.go, Traced.events_bind, Traced.events_bind, Traced.events_pure, List.append_nil, events_ofGroup, ih]
      rfl

theorem events_ofRows (rows : List ForeignKeyRow) : (ofRows rows).events = (firstRows rows).flatMap actionEvents :=
  events_go _

theorem eq_unknownAction_of_mem {rows : List ForeignKeyRow} {event : Event} (h : event ∈ (ofRows rows).events) :
    ∃ action, event = .unknownAction action := by
  rw [events_ofRows, List.mem_flatMap] at h
  obtain ⟨first, -, h⟩ := h
  rcases List.mem_append.1 h with h | h
  · exact Action.eq_unknownAction_of_mem h
  · exact Action.eq_unknownAction_of_mem h

end ForeignKey

/-! ## Indexes -/

namespace Index

theorem ofRow?_eq_none_iff {row : IndexRow} : ofRow? row = none ↔ none ∈ row.columns := by
  constructor
  · intro h
    by_contra hn
    obtain ⟨names, e⟩ := exists_map_some hn
    have hs : ofRow? row = some ⟨row.name, row.unique, names, row.isImplicit⟩ := ofRow?_eq_some_iff.2 ⟨e, rfl⟩
    rw [h] at hs
    contradiction
  · intro hm
    by_contra hn
    obtain ⟨index, hs⟩ := Option.ne_none_iff_exists'.1 hn
    rw [(ofRow?_eq_some_iff.1 hs).1] at hm
    simp at hm

theorem events_ofRows (table : String) (rows : List IndexRow) :
    (ofRows table rows).events =
      (rows.filter fun row => none ∈ row.columns).map fun row => .expressionIndex table row.name := by
  induction rows with
  | nil => rfl
  | cons row rows ih =>
    rw [ofRows, List.filter_cons]
    cases h : ofRow? row with
    | none =>
      rw [if_pos (by simpa using ofRow?_eq_none_iff.1 h), List.map_cons, ← ih]
      rfl
    | some index =>
      have hn : none ∉ row.columns := fun hm => by simp [ofRow?_eq_none_iff.2 hm] at h
      rw [if_neg (by simpa using hn), ← ih]
      exact List.append_nil _

end Index

/-! ## Tables -/

namespace Table
variable {name : String} {columnRows : List ColumnRow} {keyRows : List ForeignKeyRow} {indexRows : List IndexRow}

theorem events_of_ok {table : Table} (h : (ofRows name columnRows keyRows indexRows).value = .ok table) :
    (ofRows name columnRows keyRows indexRows).events =
      (ForeignKey.ofRows keyRows).events ++ (Index.ofRows name indexRows).events := by
  rw [ofRows] at h ⊢
  split at h
  · contradiction
  · rw [Traced.value_bind] at h
    rw [Traced.events_bind]
    split at h
    · contradiction
    · rw [Traced.events_bind, Traced.events_pure, List.append_nil]

/-- Indexes are not looked at where the columns are inconsistent. -/
theorem events_of_error {cause : Failure} (h : (ofRows name columnRows keyRows indexRows).value = .error cause) :
    ∀ event ∈ (ofRows name columnRows keyRows indexRows).events, ∃ action, event = .unknownAction action := by
  intro event he
  rw [ofRows] at h he
  cases hc : Column.ofRows columnRows with
  | error cause =>
    rw [hc] at he
    exact absurd he List.not_mem_nil
  | ok columns =>
    rw [hc] at h he
    rw [Traced.value_bind] at h
    rw [Traced.events_bind, List.mem_append] at he
    rcases he with he | he
    · exact ForeignKey.eq_unknownAction_of_mem he
    · split at h
      · next column hu =>
        rw [hu] at he
        exact absurd he List.not_mem_nil
      · contradiction

/-- What is reported while a table is read is about an action or an index. -/
theorem event_cases {event : Event} (h : event ∈ (ofRows name columnRows keyRows indexRows).events) :
    (∃ action, event = .unknownAction action) ∨ ∃ index, event = .expressionIndex name index := by
  cases hv : (ofRows name columnRows keyRows indexRows).value with
  | error cause => exact .inl (events_of_error hv event h)
  | ok table =>
    rw [events_of_ok hv, List.mem_append] at h
    rcases h with h | h
    · exact .inl (ForeignKey.eq_unknownAction_of_mem h)
    · rw [Index.events_ofRows] at h
      obtain ⟨row, -, rfl⟩ := List.mem_map.1 h
      exact .inr ⟨row.name, rfl⟩

end Table

theorem Source.event_cases {source : Source} {name : String} {event : Event}
    (h : event ∈ (source.readTable name).events) :
    (∃ action, event = .unknownAction action) ∨ ∃ index, event = .expressionIndex name index := by
  rw [readTable] at h
  split at h
  · exact absurd h List.not_mem_nil
  · exact Table.event_cases h

end CatalogDdl
