import Mathlib.Data.List.Basic
import CatalogDdl.Proofs.Sql.Nesting

/-! # Reading scripts

How a database client cuts a script into statements, one character after the other.

* `Reader`: the statement under way, the statements before it, and the number of comments.
* `Reader.step`, `Reader.run`: the reader after one more character, and after a text.
* `IsClosedText`: the quotes of a text are closed, and outside of them no statement ends and no comment begins.
* `IsStatement`: a closed text with a semicolon behind it.

`Reader.run_statement` says that a statement is read as one, whatever its quotes hold. What is read may carry
more than its character, so that it can be said of a statement where its characters come from.
-/

namespace CatalogDdl.Sql
set_option autoImplicit false

/-! ## The reader -/

/-- Where the reader is: outside quotes and comments, behind a character there that may begin a comment, within
quotes, or within a comment. -/
inductive Reader.Mode (α : Type)
  | plain
  | held (item : α)
  | quoted (quote : Char)
  | line
  | block (star : Bool)
deriving DecidableEq, Repr

/-- A reader: the statement under way and the statements before it. -/
structure Reader (α : Type) where
  mode : Reader.Mode α
  current : List α
  statements : List (List α)
  comments : Nat
deriving DecidableEq, Repr

namespace Reader

def isSpace (c : Char) : Bool :=
  c == ' ' || c == '\t' || c == '\n' || c == '\r' || c == '\x0b' || c == '\x0c'

def isLineEnd (c : Char) : Bool :=
  c == '\n' || c == '\r'

variable {α β : Type} (char : α → Char) (blocks : Bool)

def start : Reader α :=
  ⟨.plain, [], [], 0⟩

def push (r : Reader α) (a : α) : Reader α :=
  { r with current := r.current ++ [a] }

/-- The comment that two characters begin, if they do. -/
def comment? (first second : Char) : Option (Mode α) :=
  if first = '-' ∧ second = '-' then some .line
  else if first = '/' ∧ second = '*' then some (.block false)
  else none

/-- Whether a character may begin a comment. Not all readers know comments between a slash and a star. -/
def mayOpen (c : Char) : Bool :=
  c == '-' || (blocks && c == '/')

/-- The reader after a character outside quotes and comments. White space before a statement is dropped. -/
def plainStep (r : Reader α) (a : α) : Reader α :=
  if char a = ';' then
    { r with mode := .plain, current := [], statements := r.statements ++ [r.current ++ [a]] }
  else if Nesting.isQuote (char a) then { r.push a with mode := .quoted (char a) }
  else if mayOpen blocks (char a) then { r with mode := .held a }
  else if isSpace (char a) && r.current.isEmpty then { r with mode := .plain }
  else { r.push a with mode := .plain }

/-- The reader after one more character. A doubled quote closes a quoted text and opens it again. -/
def step (r : Reader α) (a : α) : Reader α :=
  match r.mode with
  | .plain => r.plainStep char blocks a
  | .held b =>
    match comment? (char b) (char a) with
    | some mode => { r with mode := mode, comments := r.comments + 1 }
    | none => (r.push b).plainStep char blocks a
  | .quoted quote => { r.push a with mode := if char a = quote then .plain else .quoted quote }
  | .line => if isLineEnd (char a) then r.plainStep char blocks a else r
  | .block star =>
    if star ∧ char a = '/' then { r with mode := .plain } else { r with mode := .block (char a == '*') }

def run (r : Reader α) (items : List α) : Reader α :=
  items.foldl (step char blocks) r

def read (items : List α) : Reader α :=
  run char blocks start items

@[simp] theorem run_nil (r : Reader α) : r.run char blocks [] = r := rfl

theorem run_cons (r : Reader α) (a : α) (items : List α) :
    r.run char blocks (a :: items) = (r.step char blocks a).run char blocks items := rfl

theorem run_append (r : Reader α) (items more : List α) :
    r.run char blocks (items ++ more) = (r.run char blocks items).run char blocks more :=
  List.foldl_append

/-! ## Items that carry more -/

def Mode.map (f : α → β) : Mode α → Mode β
  | plain => .plain
  | held item => .held (f item)
  | quoted quote => .quoted quote
  | line => .line
  | block star => .block star

def map (f : α → β) (r : Reader α) : Reader β :=
  ⟨r.mode.map f, r.current.map f, r.statements.map (·.map f), r.comments⟩

theorem plainStep_map (char : β → Char) (f : α → β) (r : Reader α) (a : α) :
    (r.map f).plainStep char blocks (f a) = (r.plainStep (char ∘ f) blocks a).map f := by
  rw [plainStep, plainStep]
  simp only [Function.comp_apply]
  split
  · simp [map, Mode.map]
  · split
    · simp [map, push, Mode.map]
    · split
      · simp [map, Mode.map]
      · by_cases h : isSpace (char (f a)) && r.current.isEmpty
        · simp [map, Mode.map, h]
        · simp [map, push, Mode.map, h]

theorem step_map (char : β → Char) (f : α → β) (r : Reader α) (a : α) :
    (r.map f).step char blocks (f a) = (r.step (char ∘ f) blocks a).map f := by
  obtain ⟨mode, current, statements, n⟩ := r
  cases mode with
  | plain => exact plainStep_map blocks char f _ a
  | held b =>
    have hp := plainStep_map blocks char f (push ⟨.held b, current, statements, n⟩ b) a
    have hm : (push ⟨.held b, current, statements, n⟩ b).map f =
        push (map f ⟨.held b, current, statements, n⟩) (f b) := by simp [map, push]
    rw [hm] at hp
    by_cases hd : char (f b) = '-' ∧ char (f a) = '-'
    · simp [step, map, comment?, Mode.map, hd]
    · by_cases hs : char (f b) = '/' ∧ char (f a) = '*'
      · simp [step, map, comment?, Mode.map, hs]
      · have hb : comment? (α := β) (char (f b)) (char (f a)) = none := by rw [comment?, if_neg hd, if_neg hs]
        have ha : comment? (α := α) (char (f b)) (char (f a)) = none := by rw [comment?, if_neg hd, if_neg hs]
        simp only [step, map, Mode.map, Function.comp_apply, hb, ha]
        exact hp
  | quoted quote =>
    by_cases h : char (f a) = quote <;> simp [step, map, push, Mode.map, h]
  | line =>
    by_cases h : isLineEnd (char (f a)) = true
    · have hp := plainStep_map blocks char f ⟨.line, current, statements, n⟩ a
      simpa [step, map, Mode.map, h] using hp
    · simp [step, map, Mode.map, h]
  | block star =>
    by_cases h : star = true ∧ char (f a) = '/' <;> simp [step, map, Mode.map, h]

theorem run_map (char : β → Char) (f : α → β) (r : Reader α) (items : List α) :
    (r.map f).run char blocks (items.map f) = (r.run (char ∘ f) blocks items).map f := by
  induction items generalizing r with
  | nil => rfl
  | cons a items ih => rw [List.map_cons, run_cons, run_cons, step_map, ih]

end Reader

/-! ## Closed texts -/

def beginComment (c : Char) (next : Option Char) : Bool :=
  (c == '-' && next == some '-') || (c == '/' && next == some '*')

/-- Whether the quotes of a text that goes on behind an open quote, or none, are closed at its end, and outside
of them no statement ends and no comment begins. -/
def closed : Option Char → List Char → Bool
  | quote, [] => quote.isNone
  | some quote, c :: cs => closed (if c = quote then none else some quote) cs
  | none, c :: cs =>
    if Nesting.isQuote c then closed (some c) cs
    else c != ';' && !beginComment c cs.head? && closed none cs

/-- Whether the quotes of a text are closed and it holds no semicolon and no comment outside of them. -/
def IsClosedText (cs : List Char) : Prop :=
  closed none cs = true

instance (cs : List Char) : Decidable (IsClosedText cs) :=
  inferInstanceAs (Decidable (_ = _))

/-- Whether no text that stands before another can begin a comment with its first character. -/
def OpensNoComment (cs : List Char) : Prop :=
  cs.head? ≠ some '-' ∧ cs.head? ≠ some '*'

theorem OpensNoComment.cons {c : Char} (hd : c ≠ '-') (hs : c ≠ '*') (cs : List Char) : OpensNoComment (c :: cs) :=
  ⟨fun e => hd (Option.some.inj e), fun e => hs (Option.some.inj e)⟩

theorem beginComment_append {c : Char} {cs rest : List Char} (h : beginComment c cs.head? = false)
    (hr : OpensNoComment rest) : beginComment c (cs ++ rest).head? = false := by
  cases cs with
  | nil =>
    have h1 := hr.1
    have h2 := hr.2
    simp [beginComment, h1, h2]
  | cons d ds => exact h

/-- What stands behind a closed text is closed on its own. -/
theorem closed_append {quote : Option Char} {cs rest : List Char} (h : closed quote cs = true)
    (hr : OpensNoComment rest) : closed quote (cs ++ rest) = closed none rest := by
  induction cs generalizing quote with
  | nil =>
    obtain rfl : quote = none := by simpa [closed] using h
    rfl
  | cons c cs ih =>
    cases quote with
    | some quote => exact ih h
    | none =>
      rw [List.cons_append, closed]
      rw [closed] at h
      by_cases hq : Nesting.isQuote c = true
      · rw [if_pos hq] at h ⊢
        exact ih h
      · rw [if_neg hq, Bool.and_eq_true, Bool.and_eq_true, Bool.not_eq_true'] at h
        obtain ⟨⟨hs, hb⟩, hc⟩ := h
        rw [if_neg hq, hs, beginComment_append hb hr, ih hc]
        rfl

/-! ## Transparent texts -/

/-- Whether a text may stand before any other without a bearing on whether that is closed. -/
def IsTransparent (cs : List Char) : Prop :=
  ∀ rest, closed none (cs ++ rest) = closed none rest

theorem IsTransparent.append {cs ds : List Char} (hc : IsTransparent cs) (hd : IsTransparent ds) :
    IsTransparent (cs ++ ds) := by
  intro rest
  rw [List.append_assoc, hc, hd]

theorem IsTransparent.closed_append {cs ds : List Char} (hc : IsTransparent cs) (hd : IsClosedText ds) :
    IsClosedText (cs ++ ds) := by
  rw [IsClosedText, hc]
  exact hd

theorem IsTransparent.isClosed {cs : List Char} (h : IsTransparent cs) : IsClosedText cs := by
  rw [← List.append_nil cs]
  exact h.closed_append rfl

/-- The characters that mean nothing to a reader outside quotes, alone or with others. -/
def isCalm (c : Char) : Bool :=
  !Nesting.isQuote c && c != ';' && c != '-' && c != '/'

theorem isTransparent_calm {cs : List Char} (h : cs.all isCalm = true) : IsTransparent cs := by
  intro rest
  induction cs with
  | nil => rfl
  | cons c cs ih =>
    simp only [List.all_cons, isCalm, Bool.and_eq_true, Bool.not_eq_true', bne_iff_ne] at h
    obtain ⟨⟨⟨⟨hq, hs⟩, hd⟩, hb⟩, hc⟩ := h
    have hn : beginComment c (cs ++ rest).head? = false := by simp [beginComment, hd, hb]
    rw [List.cons_append, closed, hq, hn, ih hc]
    simp [hs]

theorem closed_doubled {quote : Char} (hq : Nesting.isQuote quote = true) (cs rest : List Char) :
    closed (some quote) (doubled quote cs ++ rest) = closed (some quote) rest := by
  induction cs with
  | nil => rfl
  | cons c cs ih =>
    by_cases hc : c = quote
    · have h1 (ds : List Char) : closed (some quote) (quote :: ds) = closed none ds := by simp [closed]
      have h2 (ds : List Char) : closed none (quote :: ds) = closed (some quote) ds := by simp [closed, hq]
      rw [doubled, if_pos hc, List.cons_append, List.cons_append, h1, h2, ih]
    · have h1 (ds : List Char) : closed (some quote) (c :: ds) = closed (some quote) ds := by simp [closed, hc]
      rw [doubled, if_neg hc, List.cons_append, h1, ih]

theorem isTransparent_enclosed {quote : Char} (hq : Nesting.isQuote quote = true) (cs : List Char) :
    IsTransparent (enclosed quote cs) := by
  intro rest
  have h1 (ds : List Char) : closed none (quote :: ds) = closed (some quote) ds := by simp [closed, hq]
  have h2 (ds : List Char) : closed (some quote) (quote :: ds) = closed none ds := by simp [closed]
  rw [enclosed, List.cons_append, h1, List.append_assoc, closed_doubled hq, List.singleton_append, h2]

theorem isTransparent_identifier (name : String) : IsTransparent (identifier name).toList := by
  rw [toList_identifier]
  exact isTransparent_enclosed rfl _

theorem isTransparent_literal (text : String) : IsTransparent (literal text).toList := by
  rw [toList_literal]
  exact isTransparent_enclosed rfl _

theorem isTransparent_identifiers (names : List String) : IsTransparent (identifiers names).toList := by
  rw [identifiers, String.toList_intercalate]
  induction names with
  | nil => exact fun _ => rfl
  | cons name names ih =>
    cases names with
    | nil => simpa using isTransparent_enclosed rfl name.toList
    | cons next names =>
      rw [List.map_cons, List.map_cons, List.map_cons, List.map_cons, List.intercalate_cons_cons]
      exact ((isTransparent_identifier name).append (isTransparent_calm (by decide))).append ih

/-! ## Reading statements -/

namespace Reader
variable {α : Type} {char : α → Char} {blocks : Bool}

theorem step_plain {r : Reader α} (h : r.mode = .plain) (a : α) :
    r.step char blocks a = r.plainStep char blocks a := by
  rw [step, h]

theorem comment?_eq_none {c d : Char} (h : beginComment c (some d) = false) : comment? (α := α) c d = none := by
  rw [comment?, if_neg, if_neg]
  · rintro ⟨rfl, rfl⟩
    contradiction
  · rintro ⟨rfl, rfl⟩
    contradiction

def modeOf : Option Char → Mode α
  | none => .plain
  | some quote => .quoted quote

variable {current : List α} {statements : List (List α)} {n : Nat}

theorem step_quote {a : α} (h : Nesting.isQuote (char a) = true) :
    step char blocks ⟨.plain, current, statements, n⟩ a =
      ⟨.quoted (char a), current ++ [a], statements, n⟩ := by
  have hs : char a ≠ ';' := by
    intro e
    rw [e] at h
    contradiction
  rw [step_plain rfl, plainStep, if_neg hs, if_pos h]
  rfl

theorem step_quoted (quote : Char) (a : α) :
    step char blocks ⟨.quoted quote, current, statements, n⟩ a =
      ⟨modeOf (if char a = quote then none else some quote), current ++ [a], statements, n⟩ := by
  have e : modeOf (if char a = quote then none else some quote) =
      if char a = quote then Mode.plain (α := α) else .quoted quote := by
    by_cases hq : char a = quote
    · rw [if_pos hq, if_pos hq, modeOf]
    · rw [if_neg hq, if_neg hq, modeOf]
  rw [e]
  rfl

theorem step_mayOpen {a : α} (h : mayOpen blocks (char a) = true) :
    step char blocks ⟨.plain, current, statements, n⟩ a = ⟨.held a, current, statements, n⟩ := by
  have hs : char a ≠ ';' := by
    intro e
    rw [e] at h
    simp [mayOpen] at h
  have hq : ¬ Nesting.isQuote (char a) = true := by
    intro e
    simp only [Nesting.isQuote, Bool.or_eq_true, beq_iff_eq] at e
    rcases e with e | e <;> simp [e, mayOpen] at h
  rw [step_plain rfl, plainStep, if_neg hs, if_neg hq, if_pos h]

/-- Behind a character that begins no comment the reader is where it would be had it never waited. -/
theorem step_held {b a : α} (hb : beginComment (char b) (some (char a)) = false) :
    step char blocks ⟨.held b, current, statements, n⟩ a =
      step char blocks ⟨.plain, current ++ [b], statements, n⟩ a := by
  rw [step]
  simp only [comment?_eq_none hb]
  rfl

/-- Any other character goes into the statement under way, and white space does if there is one. -/
theorem step_other {a : α} (hs : char a ≠ ';') (hq : Nesting.isQuote (char a) = false)
    (hm : mayOpen blocks (char a) = false) (hw : isSpace (char a) = false ∨ current ≠ []) :
    step char blocks ⟨.plain, current, statements, n⟩ a = ⟨.plain, current ++ [a], statements, n⟩ := by
  have hb : (isSpace (char a) && current.isEmpty) = false := by
    rcases hw with hw | hw
    · rw [hw, Bool.false_and]
    · rw [List.isEmpty_eq_false_iff.2 hw, Bool.and_false]
  rw [step_plain rfl, plainStep, if_neg hs, hq, hm, hb]
  rfl

/-- A closed text is read into the statement under way, whatever stands in its quotes. -/
theorem run_closed {quote : Option Char} {items : List α} (h : closed quote (items.map char) = true)
    (hc : current ≠ []) {a : α} (ha : char a ≠ '-' ∧ char a ≠ '*') (more : List α) :
    run char blocks ⟨modeOf quote, current, statements, n⟩ (items ++ a :: more) =
      run char blocks ⟨.plain, current ++ items, statements, n⟩ (a :: more) := by
  induction items generalizing current quote with
  | nil =>
    obtain rfl : quote = none := by simpa [closed] using h
    rw [List.append_nil]
    rfl
  | cons b items ih =>
    have hb : current ++ [b] ≠ [] := by simp
    have e : current ++ b :: items = current ++ [b] ++ items := by simp
    rw [e, List.cons_append, run_cons]
    rw [List.map_cons] at h
    cases quote with
    | some quote =>
      rw [modeOf, step_quoted]
      exact ih h hb
    | none =>
      rw [closed] at h
      by_cases hq : Nesting.isQuote (char b) = true
      · rw [if_pos hq] at h
        rw [modeOf, step_quote hq]
        exact ih h hb
      · rw [if_neg hq, Bool.and_eq_true, Bool.and_eq_true, Bool.not_eq_true', bne_iff_ne] at h
        obtain ⟨⟨hs, hn⟩, h⟩ := h
        by_cases hm : mayOpen blocks (char b) = true
        -- Such a character is held back, and with the next one the reader is where it would be without that.
        · rw [modeOf, step_mayOpen hm]
          have hd : ∃ d ds, items ++ a :: more = d :: ds ∧ beginComment (char b) (some (char d)) = false := by
            cases items with
            | nil => exact ⟨a, more, rfl, by simp [beginComment, ha.1, ha.2]⟩
            | cons d ds => exact ⟨d, ds ++ a :: more, rfl, by simpa using hn⟩
          obtain ⟨d, ds, hd, hn⟩ := hd
          rw [hd, run_cons, step_held hn, ← run_cons, ← hd]
          exact ih h hb
        · rw [modeOf, step_other hs (by simpa using hq) (by simpa using hm) (.inr hc)]
          exact ih h hb

theorem step_space {a : α} (h : isSpace (char a) = true) :
    step char blocks ⟨.plain, [], statements, n⟩ a = ⟨.plain, [], statements, n⟩ := by
  have hs : char a ≠ ';' := by
    intro e
    rw [e] at h
    contradiction
  have hq : ¬ Nesting.isQuote (char a) = true := by
    intro e
    simp only [Nesting.isQuote, Bool.or_eq_true, beq_iff_eq] at e
    rcases e with e | e <;> simp [e, isSpace] at h
  have hm : ¬ mayOpen blocks (char a) = true := by
    intro e
    simp only [mayOpen, Bool.or_eq_true, Bool.and_eq_true, beq_iff_eq] at e
    rcases e with e | ⟨-, e⟩ <;> simp [e, isSpace] at h
  rw [step_plain rfl, plainStep, if_neg hs, if_neg hq, if_neg hm, if_pos (by simp [h])]

theorem step_semicolon {a : α} (h : char a = ';') :
    step char blocks ⟨.plain, current, statements, n⟩ a =
      ⟨.plain, [], statements ++ [current ++ [a]], n⟩ := by
  rw [step_plain rfl, plainStep, if_pos h]

end Reader

/-- Whether a text is a closed text with a semicolon behind it. Its first character is part of it. -/
def IsStatement (cs : List Char) : Prop :=
  ∃ c body, cs = c :: (body ++ [';']) ∧ isCalm c = true ∧ Reader.isSpace c = false ∧ IsClosedText body

/-- **A statement is read as one**, whatever stands in its quotes, and the next may begin behind it. -/
theorem Reader.run_statement {α : Type} {char : α → Char} {items : List α} (h : IsStatement (items.map char))
    (blocks : Bool) (statements : List (List α)) (n : Nat) (rest : List α) :
    run char blocks ⟨.plain, [], statements, n⟩ (items ++ rest) =
      run char blocks ⟨.plain, [], statements ++ [items], n⟩ rest := by
  obtain ⟨c, body, e, hc, hw, hb⟩ := h
  obtain ⟨a, more, rfl, rfl, em⟩ := List.map_eq_cons_iff.1 e
  obtain ⟨inner, last, rfl, rfl, el⟩ := List.map_eq_append_iff.1 em
  obtain ⟨z, rfl, hz⟩ := List.map_eq_singleton_iff.1 el
  simp only [isCalm, Bool.and_eq_true, Bool.not_eq_true', bne_iff_ne] at hc
  obtain ⟨⟨⟨hq, hs⟩, hd⟩, hl⟩ := hc
  have hm : mayOpen blocks (char a) = false := by simp [mayOpen, hd, hl]
  have ha : char z ≠ '-' ∧ char z ≠ '*' := by rw [hz]; decide
  have he : a :: (inner ++ [z]) ++ rest = a :: (inner ++ z :: rest) := by simp
  have hr : run char blocks ⟨.plain, [a], statements, n⟩ (inner ++ z :: rest) =
      run char blocks ⟨.plain, [a] ++ inner, statements, n⟩ (z :: rest) :=
    run_closed hb (List.cons_ne_nil a []) ha rest
  rw [he, run_cons, step_other hs hq hm (.inl hw), List.nil_append, hr, run_cons, step_semicolon hz,
    List.append_assoc, List.singleton_append]

/-- **Statements on lines of their own are read as they are**, with no comment among them and nothing left. -/
theorem Reader.read_lines {statements : List String} (h : ∀ text ∈ statements, IsStatement text.toList)
    (blocks : Bool) :
    read id blocks (statements.flatMap fun text => text.toList ++ ['\n']) =
      ⟨.plain, [], statements.map String.toList, 0⟩ := by
  have hr : ∀ before, run id blocks ⟨.plain, [], before, 0⟩ (statements.flatMap fun text => text.toList ++ ['\n']) =
      ⟨.plain, [], before ++ statements.map String.toList, 0⟩ := by
    induction statements with
    | nil => simp
    | cons text statements ih =>
      intro before
      have ht : IsStatement (text.toList.map id) := by
        rw [List.map_id]
        exact h text List.mem_cons_self
      have ih := ih fun other ho => h other (List.mem_cons_of_mem _ ho)
      have hn : step id blocks ⟨.plain, [], before ++ [text.toList], 0⟩ '\n' =
          ⟨.plain, [], before ++ [text.toList], 0⟩ := step_space rfl
      rw [List.flatMap_cons, List.append_assoc, run_statement ht, List.singleton_append, run_cons, hn, ih,
        List.append_assoc, List.singleton_append, List.map_cons]
  exact hr []

end CatalogDdl.Sql
