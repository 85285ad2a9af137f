import CatalogDdl.Proofs.Sql.Reader

/-! # Commentary

When the text between the statements of a script says nothing to a client that reads it.

* `IsComment`: every line of a text is blank or a comment. `IsHarmless`: every line but the first is.
* `Segment`: a statement or a piece of commentary, on lines of its own. Its characters are marked with where they
  come from.
* `ReadsAsMarked`: a client reads the statements of a script from their own places, and nothing else.

`readsAsMarked_iff` says that it does exactly if all commentary is in comments. What is once read outside of
one stays in what is read up to the end, so no later line can make up for it.
-/

namespace CatalogDdl.Sql
set_option autoImplicit false

/-! ## Lines -/

def lines (cs : List Char) : List (List Char) :=
  cs.splitOnP Reader.isLineEnd

/-- Whether a line is blank or a comment. -/
def IsCommentLine (line : List Char) : Prop :=
  line.dropWhile Reader.isSpace = [] ∨ ['-', '-'] <+: line.dropWhile Reader.isSpace

instance (line : List Char) : Decidable (IsCommentLine line) :=
  inferInstanceAs (Decidable (_ ∨ _))

def IsComment (cs : List Char) : Prop :=
  ∀ line ∈ lines cs, IsCommentLine line

/-- Whether a text stays in the comment in which it begins, line by line. -/
def IsHarmless (cs : List Char) : Prop :=
  ∀ line ∈ (lines cs).tail, IsCommentLine line

instance (cs : List Char) : Decidable (IsComment cs) :=
  inferInstanceAs (Decidable (∀ _ ∈ _, _))

instance (cs : List Char) : Decidable (IsHarmless cs) :=
  inferInstanceAs (Decidable (∀ _ ∈ _, _))

theorem Reader.isSpace_of_isLineEnd {c : Char} (h : isLineEnd c = true) : isSpace c = true := by
  simp only [isLineEnd, Bool.or_eq_true, beq_iff_eq] at h
  rcases h with h | h <;> simp [isSpace, h]

theorem exists_lines (cs : List Char) : ∃ first rest, lines cs = first :: rest :=
  List.exists_cons_of_ne_nil (List.splitOnP_ne_nil _ _)

theorem lines_cons (c : Char) (cs : List Char) :
    lines (c :: cs) = if Reader.isLineEnd c then [] :: lines cs else (lines cs).modifyHead (c :: ·) :=
  List.splitOnP_cons_eq_if_modifyHead c cs

theorem lines_append {word : List Char} (h : ∀ c ∈ word, Reader.isLineEnd c = false) (cs : List Char) :
    lines (word ++ cs) = (lines cs).modifyHead (word ++ ·) := by
  induction word with
  | nil =>
    obtain ⟨first, rest, e⟩ := exists_lines cs
    rw [List.nil_append, e]
    rfl
  | cons c word ih =>
    obtain ⟨first, rest, e⟩ := exists_lines cs
    rw [List.cons_append, lines_cons, h c List.mem_cons_self, ih fun d hd => h d (List.mem_cons_of_mem _ hd), e]
    rfl

/-- Behind two hyphens it is the later lines of a text that matter. -/
theorem isComment_append {lead : List Char} (hl : ['-', '-'] <+: lead)
    (h : ∀ c ∈ lead, Reader.isLineEnd c = false) (cs : List Char) : IsComment (lead ++ cs) ↔ IsHarmless cs := by
  obtain ⟨first, rest, e⟩ := exists_lines cs
  have hf : IsCommentLine (lead ++ first) := by
    obtain ⟨word, rfl⟩ := hl
    exact .inr ⟨word ++ first, rfl⟩
  rw [IsComment, IsHarmless, lines_append h, e]
  simp only [List.modifyHead_cons, List.tail_cons, List.forall_mem_cons, hf, true_and]

theorem isHarmless_of_no_line_end {cs : List Char} (h : ∀ c ∈ cs, Reader.isLineEnd c = false) : IsHarmless cs := by
  have e := lines_append h []
  rw [List.append_nil] at e
  rw [IsHarmless, e]
  intro line hl
  contradiction

/-! ### A text by its first character -/

theorem isHarmless_cons_line_end {c : Char} (h : Reader.isLineEnd c = true) (cs : List Char) :
    IsHarmless (c :: cs) ↔ IsComment cs := by
  rw [IsHarmless, IsComment, lines_cons, if_pos h, List.tail_cons]

theorem isHarmless_cons {c : Char} (h : Reader.isLineEnd c = false) (cs : List Char) :
    IsHarmless (c :: cs) ↔ IsHarmless cs := by
  obtain ⟨first, rest, e⟩ := exists_lines cs
  rw [IsHarmless, IsHarmless, lines_cons, h, e]
  rfl

theorem isComment_cons_space {c : Char} (h : Reader.isSpace c = true) (cs : List Char) :
    IsComment (c :: cs) ↔ IsComment cs := by
  obtain ⟨first, rest, e⟩ := exists_lines cs
  rw [IsComment, IsComment, lines_cons, e]
  split
  · have hb : IsCommentLine [] := .inl rfl
    rw [List.forall_mem_cons, and_iff_right hb]
  · have hl : IsCommentLine (c :: first) ↔ IsCommentLine first := by
      rw [IsCommentLine, IsCommentLine, List.dropWhile_cons_of_pos h]
    rw [List.modifyHead_cons, List.forall_mem_cons, List.forall_mem_cons, hl]

/-- The first line of a text begins with a hyphen if the text does. -/
theorem hyphen_isPrefix_first {cs first : List Char} {rest : List (List Char)} (e : lines cs = first :: rest) :
    ['-'] <+: first ↔ cs.head? = some '-' := by
  cases cs with
  | nil =>
    obtain ⟨rfl, -⟩ := List.cons_eq_cons.1 e
    decide
  | cons c cs =>
    obtain ⟨second, more, hs⟩ := exists_lines cs
    rw [lines_cons, hs] at e
    by_cases hl : Reader.isLineEnd c = true
    · rw [if_pos hl] at e
      obtain ⟨rfl, -⟩ := List.cons_eq_cons.1 e
      have hc : c ≠ '-' := by
        rintro rfl
        contradiction
      simp [hc]
    · rw [if_neg hl, List.modifyHead_cons] at e
      obtain ⟨rfl, -⟩ := List.cons_eq_cons.1 e
      simp [eq_comm]

/-- A text that begins with anything but white space has to begin with two hyphens. -/
theorem isComment_cons {c : Char} (h : Reader.isSpace c = false) (cs : List Char) :
    IsComment (c :: cs) ↔ c = '-' ∧ cs.head? = some '-' ∧ IsHarmless cs := by
  obtain ⟨first, rest, e⟩ := exists_lines cs
  have hl : Reader.isLineEnd c = false := by
    rw [Bool.eq_false_iff]
    intro hl
    rw [Reader.isSpace_of_isLineEnd hl] at h
    contradiction
  have hf : IsCommentLine (c :: first) ↔ c = '-' ∧ ['-'] <+: first := by
    rw [IsCommentLine, List.dropWhile_cons_of_neg (by simp [h])]
    simp [eq_comm]
  rw [IsComment, IsHarmless, lines_cons, hl, e]
  simp only [Bool.false_eq_true, if_false, List.modifyHead_cons, List.forall_mem_cons, List.tail_cons, hf,
    hyphen_isPrefix_first e, and_assoc]

/-! ## Marks -/

/-- A text whose characters carry whether they belong to a statement. -/
def mark (own : Bool) (cs : List Char) : List (Bool × Char) :=
  cs.map (own, ·)

theorem map_snd_mark (own : Bool) (cs : List Char) : (mark own cs).map Prod.snd = cs := by
  rw [mark, List.map_map]
  exact List.map_id cs

namespace Reader

/-- Whether a reader has taken commentary for a part of a statement. -/
def IsTainted (r : Reader (Bool × Char)) : Prop :=
  ∃ c, (false, c) ∈ r.current ∨ ∃ statement ∈ r.statements, (false, c) ∈ statement

variable {r : Reader (Bool × Char)} {blocks : Bool}

theorem IsTainted.push (h : r.IsTainted) (a : Bool × Char) : (r.push a).IsTainted := by
  obtain ⟨c, hc | hs⟩ := h
  · exact ⟨c, .inl (List.mem_append_left _ hc)⟩
  · exact ⟨c, .inr hs⟩

theorem IsTainted.plainStep (h : r.IsTainted) (a : Bool × Char) :
    (r.plainStep Prod.snd blocks a).IsTainted := by
  have hp := h.push a
  obtain ⟨c, hc⟩ := h
  rw [Reader.plainStep]
  split
  · refine ⟨c, .inr ?_⟩
    rcases hc with hc | ⟨statement, hs, hc⟩
    · exact ⟨_, List.mem_append_right _ List.mem_cons_self, List.mem_append_left _ hc⟩
    · exact ⟨statement, List.mem_append_left _ hs, hc⟩
  · split
    · exact hp
    · split
      · exact ⟨c, hc⟩
      · split
        · exact ⟨c, hc⟩
        · exact hp

theorem IsTainted.step (h : r.IsTainted) (a : Bool × Char) : (r.step Prod.snd blocks a).IsTainted := by
  rw [Reader.step]
  split
  · exact h.plainStep a
  · split
    · exact h
    · exact (h.push _).plainStep a
  · exact h.push a
  · split
    · exact h.plainStep a
    · exact h
  · split
    · exact h
    · exact h

theorem IsTainted.run (h : r.IsTainted) (items : List (Bool × Char)) :
    (r.run Prod.snd blocks items).IsTainted := by
  induction items generalizing r with
  | nil => exact h
  | cons a items ih => exact ih (h.step a)

/-! ## Reading commentary -/

/-- Where a reader ought to be: between statements and clean if the commentary so far allows it, and else
tainted, as far as it knows no comments between slashes and stars. -/
def IsSettled (blocks : Bool) (allowed : Prop) (statements : List (List (Bool × Char)))
    (r : Reader (Bool × Char)) : Prop :=
  (allowed → ∃ n, r = ⟨.plain, [], statements, n⟩) ∧ (¬ allowed → blocks = false → r.IsTainted)

theorem isSettled_iff {allowed other : Prop} {statements : List (List (Bool × Char))} (h : allowed ↔ other) :
    IsSettled blocks allowed statements r ↔ IsSettled blocks other statements r := by
  rw [IsSettled, IsSettled, h]

theorem isSettled_of_isTainted {allowed : Prop} {statements : List (List (Bool × Char))} (h : ¬ allowed)
    (ht : blocks = false → r.IsTainted) : IsSettled blocks allowed statements r :=
  ⟨fun ha => absurd ha h, fun _ => ht⟩

variable {statements : List (List (Bool × Char))} {n : Nat} {c : Char}

theorem step_comment (a : Bool × Char) :
    step Prod.snd blocks ⟨.line, [], statements, n⟩ a =
      if isLineEnd a.2 then plainStep Prod.snd blocks ⟨.line, [], statements, n⟩ a
      else ⟨.line, [], statements, n⟩ := rfl

theorem step_line_end {a : Bool × Char} (h : isLineEnd a.2 = true) :
    step Prod.snd blocks ⟨.line, [], statements, n⟩ a = ⟨.plain, [], statements, n⟩ := by
  rw [step_comment, if_pos h]
  exact step_space (isSpace_of_isLineEnd h)

theorem step_line {a : Bool × Char} (h : isLineEnd a.2 = false) :
    step Prod.snd blocks ⟨.line, [], statements, n⟩ a = ⟨.line, [], statements, n⟩ := by
  rw [step_comment, h]
  rfl

/-- Commentary is tainting outside of comments unless it is white space or may begin one. -/
theorem isTainted_step_plain (hs : isSpace c = false) (hm : mayOpen blocks c = false) :
    (step Prod.snd blocks ⟨.plain, [], statements, n⟩ (false, c)).IsTainted := by
  rw [step_plain rfl, plainStep]
  split
  · exact ⟨c, .inr ⟨[(false, c)], by simp, by simp⟩⟩
  · split
    · exact ⟨c, .inl (by simp [push])⟩
    · rw [if_neg (by simp [hm]), if_neg (by simp [hs])]
      exact ⟨c, .inl (by simp [push])⟩

theorem isTainted_step_held {a : Bool × Char} (h : a.2 ≠ '-') :
    (step Prod.snd blocks ⟨.held (false, '-'), [], statements, n⟩ a).IsTainted := by
  have hb : beginComment '-' (some a.2) = false := by simp [beginComment, h]
  rw [step_held hb]
  exact IsTainted.step ⟨'-', .inl (by simp)⟩ a

/-- The places where commentary finds a reader: before a statement, behind a hyphen there, and in a comment. -/
inductive Place
  | outside | hyphen | comment

def Place.reader (statements : List (List (Bool × Char))) (n : Nat) : Place → Reader (Bool × Char)
  | outside => ⟨.plain, [], statements, n⟩
  | hyphen => ⟨.held (false, '-'), [], statements, n⟩
  | comment => ⟨.line, [], statements, n⟩

/-- Whether commentary that goes on at a place stays in comments. -/
def Place.Allows (cs : List Char) : Place → Prop
  | outside => IsComment cs
  | hyphen => cs.head? = some '-' ∧ IsHarmless cs
  | comment => IsHarmless cs

theorem isSettled_run (blocks : Bool) (statements : List (List (Bool × Char))) (place : Place) (n : Nat)
    (cs : List Char) :
    IsSettled blocks (place.Allows cs) statements
      (run Prod.snd blocks (place.reader statements n) (mark false (cs ++ ['\n']))) := by
  induction cs generalizing place n with
  | nil =>
    have e : mark false ([] ++ ['\n']) = [(false, '\n')] := rfl
    rw [e, run_cons]
    cases place with
    | outside =>
      rw [Place.reader, step_space rfl]
      exact ⟨fun _ => ⟨n, rfl⟩, fun h => absurd (by decide : IsComment []) h⟩
    | hyphen =>
      refine isSettled_of_isTainted (fun h => absurd h.1 (by decide)) fun _ => ?_
      exact (isTainted_step_held (by decide)).run _
    | comment =>
      rw [Place.reader, step_line_end rfl]
      exact ⟨fun _ => ⟨n, rfl⟩, fun h => absurd (by decide : IsHarmless []) h⟩
  | cons c cs ih =>
    have e : mark false (c :: cs ++ ['\n']) = (false, c) :: mark false (cs ++ ['\n']) := rfl
    rw [e, run_cons]
    cases place with
    | outside =>
      by_cases hs : isSpace c = true
      · rw [Place.reader, step_space hs]
        exact (isSettled_iff (isComment_cons_space hs cs)).2 (ih .outside n)
      · rw [Bool.not_eq_true] at hs
        refine (isSettled_iff (isComment_cons hs cs)).2 ?_
        by_cases hd : c = '-'
        · subst hd
          rw [Place.reader, step_mayOpen rfl]
          exact (isSettled_iff (and_iff_right rfl)).2 (ih .hyphen n)
        · refine isSettled_of_isTainted (fun h => hd h.1) ?_
          rintro rfl
          exact (isTainted_step_plain hs (by simp [mayOpen, hd])).run _
    | hyphen =>
      by_cases hd : c = '-'
      · subst hd
        have hh : step Prod.snd blocks (Place.hyphen.reader statements n) (false, '-') =
            Place.comment.reader statements (n + 1) := rfl
        rw [hh]
        refine (isSettled_iff ?_).2 (ih .comment (n + 1))
        exact (and_iff_right rfl).trans (isHarmless_cons rfl cs)
      · refine isSettled_of_isTainted (fun h => hd (Option.some.inj h.1)) fun _ => ?_
        exact (isTainted_step_held hd).run _
    | comment =>
      by_cases hl : isLineEnd c = true
      · rw [Place.reader, step_line_end hl]
        exact (isSettled_iff (isHarmless_cons_line_end hl cs)).2 (ih .outside n)
      · rw [Bool.not_eq_true] at hl
        rw [Place.reader, step_line hl]
        exact (isSettled_iff (isHarmless_cons hl cs)).2 (ih .comment n)

end Reader

/-! ## Scripts -/

/-- A segment of a script: a piece of commentary or a statement. A line break follows either. -/
inductive Segment
  | commentary (text : String)
  | statement (sql : String)
deriving DecidableEq, Repr

namespace Segment

def text : Segment → String
  | commentary text | statement text => text

def isStatement : Segment → Bool
  | commentary _ => false
  | statement _ => true

def statement? : Segment → Option String
  | commentary _ => none
  | statement sql => some sql

/-- The characters of a segment. The line break behind it is commentary. -/
def marked (segment : Segment) : List (Bool × Char) :=
  mark segment.isStatement segment.text.toList ++ mark false ['\n']

/-- Whether a segment is what it ought to be: a statement, or in comments line by line. -/
def IsProper : Segment → Prop
  | commentary text => IsComment text.toList
  | statement _ => True

instance : DecidablePred IsProper
  | commentary text => inferInstanceAs (Decidable (IsComment text.toList))
  | statement _ => inferInstanceAs (Decidable True)

/-- A line of commentary that begins with two hyphens and a fixed text. -/
theorem isProper_label (lead text : String) (hl : ['-', '-'] <+: lead.toList)
    (h : lead.toList.any Reader.isLineEnd = false) :
    (commentary (lead ++ text)).IsProper ↔ IsHarmless text.toList := by
  have ha : ∀ c ∈ lead.toList, Reader.isLineEnd c = false := by
    intro c hc
    rw [Bool.eq_false_iff]
    exact List.any_eq_false.1 h c hc
  rw [IsProper, String.toList_append]
  exact isComment_append hl ha text.toList

end Segment

def segmentsText (segments : List Segment) : List Char :=
  segments.flatMap fun segment => segment.text.toList ++ ['\n']

theorem segmentsText_append (segments more : List Segment) :
    segmentsText (segments ++ more) = segmentsText segments ++ segmentsText more :=
  List.flatMap_append

theorem segmentsText_cons (segment : Segment) (more : List Segment) :
    segmentsText (segment :: more) = segment.text.toList ++ ['\n'] ++ segmentsText more := rfl

section
variable {segments : List Segment}

/-- Whether a client reads the statements of a script from their own places, in their order, and is left with
nothing at the end. -/
def ReadsAsMarked (blocks : Bool) (segments : List Segment) : Prop :=
  ∃ n, Reader.read Prod.snd blocks (segments.flatMap Segment.marked) =
    ⟨.plain, [], (segments.filterMap Segment.statement?).map fun sql => mark true sql.toList, n⟩

theorem isSettled_segment (blocks : Bool) (before : List (List (Bool × Char))) (n : Nat) {segment : Segment}
    (h : ∀ sql ∈ segment.statement?, IsStatement sql.toList) :
    Reader.IsSettled blocks segment.IsProper
      (before ++ (segment.statement?.toList.map fun sql => mark true sql.toList))
      (Reader.run Prod.snd blocks ⟨.plain, [], before, n⟩ segment.marked) := by
  cases segment with
  | commentary text =>
    have hs := Reader.isSettled_run blocks before .outside n text.toList
    have e : (Segment.commentary text).marked = mark false (text.toList ++ ['\n']) := by
      simp [Segment.marked, Segment.isStatement, Segment.text, mark]
    rw [e, Segment.statement?, Option.toList_none, List.map_nil, List.append_nil]
    exact hs
  | statement sql =>
    have hs : IsStatement ((mark true sql.toList).map Prod.snd) := by
      rw [map_snd_mark]
      exact h sql rfl
    have e : (Segment.statement sql).marked = mark true sql.toList ++ [(false, '\n')] := rfl
    have hb : Reader.step Prod.snd blocks ⟨.plain, [], before ++ [mark true sql.toList], n⟩ (false, '\n') =
        ⟨.plain, [], before ++ [mark true sql.toList], n⟩ := Reader.step_space rfl
    rw [e, Reader.run_statement hs, Reader.run_cons, hb]
    exact ⟨fun _ => ⟨n, rfl⟩, fun hn => absurd trivial hn⟩

theorem isSettled_segments (blocks : Bool) (before : List (List (Bool × Char))) (n : Nat)
    (h : ∀ segment ∈ segments, ∀ sql ∈ segment.statement?, IsStatement sql.toList) :
    Reader.IsSettled blocks (∀ segment ∈ segments, segment.IsProper)
      (before ++ ((segments.filterMap Segment.statement?).map fun sql => mark true sql.toList))
      (Reader.run Prod.snd blocks ⟨.plain, [], before, n⟩ (segments.flatMap Segment.marked)) := by
  induction segments generalizing before n with
  | nil =>
    refine ⟨fun _ => ⟨n, ?_⟩, fun hn => absurd (by simp) hn⟩
    simp
  | cons segment segments ih =>
    have hp := isSettled_segment blocks before n (h segment List.mem_cons_self)
    have ih := fun before n => ih before n fun other ho => h other (List.mem_cons_of_mem _ ho)
    rw [List.flatMap_cons, Reader.run_append]
    by_cases hc : segment.IsProper
    · obtain ⟨m, hm⟩ := hp.1 hc
      have e : before ++ (segment.statement?.toList.map fun sql => mark true sql.toList) ++
          ((segments.filterMap Segment.statement?).map fun sql => mark true sql.toList) =
          before ++ (((segment :: segments).filterMap Segment.statement?).map fun sql => mark true sql.toList) := by
        cases segment <;> simp [Segment.statement?, List.filterMap_cons]
      rw [hm, ← e]
      refine (Reader.isSettled_iff ?_).2 (ih _ m)
      simp [hc]
    · refine Reader.isSettled_of_isTainted (fun ha => hc (ha segment List.mem_cons_self)) fun hb => ?_
      exact (hp.2 hc hb).run _

/-- **A script is read as it is marked exactly if all its commentary is in comments.** -/
theorem readsAsMarked_iff (h : ∀ segment ∈ segments, ∀ sql ∈ segment.statement?, IsStatement sql.toList) :
    ReadsAsMarked false segments ↔ ∀ segment ∈ segments, segment.IsProper := by
  obtain ⟨hg, hb⟩ := isSettled_segments false [] 0 h
  constructor
  · rintro ⟨n, e⟩
    by_contra hn
    -- What taints the reader is unmarked, but all that it is supposed to have read is marked.
    obtain ⟨c, hc | ⟨statement, hs, hc⟩⟩ := hb hn rfl
    · change (false, c) ∈ (Reader.read Prod.snd false (segments.flatMap Segment.marked)).current at hc
      rw [e] at hc
      contradiction
    · change statement ∈ (Reader.read Prod.snd false (segments.flatMap Segment.marked)).statements at hs
      rw [e] at hs
      obtain ⟨sql, -, rfl⟩ := List.mem_map.1 hs
      obtain ⟨d, -, hd⟩ := List.mem_map.1 hc
      exact absurd (Prod.mk.inj hd).1 (by decide)
  · intro ha
    exact hg ha

theorem readsAsMarked_of_isProper (h : ∀ segment ∈ segments, ∀ sql ∈ segment.statement?, IsStatement sql.toList)
    (hp : ∀ segment ∈ segments, segment.IsProper) (blocks : Bool) : ReadsAsMarked blocks segments :=
  (isSettled_segments blocks [] 0 h).1 hp

/-- A client that sees no marks reads the same as one that does. -/
theorem read_text (blocks : Bool) (segments : List Segment) :
    Reader.read id blocks (segmentsText segments) =
      (Reader.read Prod.snd blocks (segments.flatMap Segment.marked)).map Prod.snd := by
  have e : (segments.flatMap Segment.marked).map Prod.snd = segmentsText segments := by
    rw [List.map_flatMap]
    refine List.flatMap_congr fun segment _ => ?_
    rw [Segment.marked, List.map_append, map_snd_mark, map_snd_mark]
  have hr := Reader.run_map blocks id Prod.snd Reader.start (segments.flatMap Segment.marked)
  rw [e] at hr
  exact hr

theorem read_of_readsAsMarked {blocks : Bool} (h : ReadsAsMarked blocks segments) :
    ∃ n, Reader.read id blocks (segmentsText segments) =
      ⟨.plain, [], (segments.filterMap Segment.statement?).map String.toList, n⟩ := by
  obtain ⟨n, hn⟩ := h
  refine ⟨n, ?_⟩
  rw [read_text, hn]
  simp [Reader.map, Reader.Mode.map, map_snd_mark, Function.comp_def]

end

end CatalogDdl.Sql
