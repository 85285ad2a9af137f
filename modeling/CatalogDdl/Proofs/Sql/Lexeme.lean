import CatalogDdl.Proofs.Sql.Composition

/-! # Lexemes

A statement as the server takes it apart: names, words, and what stands between them.

* `Lexeme`: a name in double quotes to the letter, a bare word with its case folded, and the others.
* `lexemes`: the lexemes of a text. Comments are not looked for: what is read here has none outside its quotes.
* `Lexeme.name?`: the name that a lexeme stands for, if it can stand for one.
* `afterWords`, `readName`, `nameList`: what follows fixed words, a name, and a list of names in parentheses.

What is put together from words and quoted names is taken apart into these (`lexemes_append_blank`,
`lexemes_identifier`, `lexemes_plainIdentifier`, `lexemes_identifiers`).
-/

namespace CatalogDdl.Sql
set_option autoImplicit false

/-! ## Taking a text apart -/

inductive Lexeme
  | name (text : String)
  | word (text : String)
  | literal (text : String)
  | number (text : String)
  | symbol (c : Char)
deriving DecidableEq, Repr

/-- Whether a bare word may begin with a character. -/
def opensWord (c : Char) : Bool :=
  isNameChar c && !c.isDigit && c != '$'

/-- What stands between a quote and the one that closes it. A quote that is not closed stands for itself. -/
def quotedLexeme (kind : String → Lexeme) (quote : Char) (cs : List Char) : Lexeme × List Char :=
  match readDoubled quote cs with
  | some (text, rest) => (kind (String.ofList text), rest)
  | none => (.symbol quote, cs)

/-- The lexeme that begins with `c`, and what follows it. -/
def nextLexeme (c : Char) (cs : List Char) : Lexeme × List Char :=
  if c = '"' then quotedLexeme .name c cs
  else if c = '\x27' then quotedLexeme .literal c cs
  else if opensWord c then
    (.word (String.ofList ((c :: cs.takeWhile isNameChar).map Char.toLower)), cs.dropWhile isNameChar)
  else if c.isDigit then (.number (String.ofList (c :: cs.takeWhile isNameChar)), cs.dropWhile isNameChar)
  else (.symbol c, cs)

theorem length_nextLexeme (c : Char) (cs : List Char) : (nextLexeme c cs).2.length ≤ cs.length := by
  have hq (kind : String → Lexeme) : (quotedLexeme kind c cs).2.length ≤ cs.length := by
    rw [quotedLexeme]
    split
    · next h => exact Nat.le_of_lt (length_readDoubled h)
    · exact Nat.le_refl _
  have hd : (cs.dropWhile isNameChar).length ≤ cs.length := (List.dropWhile_suffix _).length_le
  rw [nextLexeme]
  split
  · exact hq _
  · split
    · exact hq _
    · split
      · exact hd
      · split
        · exact hd
        · exact Nat.le_refl _

def lexemes : List Char → List Lexeme
  | [] => []
  | c :: cs =>
    if Reader.isSpace c then lexemes cs else (nextLexeme c cs).1 :: lexemes (nextLexeme c cs).2
termination_by cs => cs.length
decreasing_by
  · exact Nat.lt_succ_self _
  · exact Nat.lt_succ_of_le (length_nextLexeme c cs)

/-! ## Single lexemes -/

@[simp] theorem lexemes_nil : lexemes [] = [] := by
  rw [lexemes]

theorem lexemes_space {c : Char} (h : Reader.isSpace c = true) (cs : List Char) : lexemes (c :: cs) = lexemes cs := by
  rw [lexemes, if_pos h]

theorem lexemes_cons {c : Char} (h : Reader.isSpace c = false) (cs : List Char) :
    lexemes (c :: cs) = (nextLexeme c cs).1 :: lexemes (nextLexeme c cs).2 := by
  rw [lexemes, if_neg (by rw [h]; decide)]

@[simp] theorem lexemes_blank (cs : List Char) : lexemes (' ' :: cs) = lexemes cs :=
  lexemes_space rfl cs

section
variable {c : Char} (hq : Nesting.isQuote c = false) (cs : List Char)
include hq

theorem nextLexeme_plain :
    nextLexeme c cs =
      if opensWord c then
        (.word (String.ofList ((c :: cs.takeWhile isNameChar).map Char.toLower)), cs.dropWhile isNameChar)
      else if c.isDigit then (.number (String.ofList (c :: cs.takeWhile isNameChar)), cs.dropWhile isNameChar)
      else (.symbol c, cs) := by
  have hd : c ≠ '"' := by rintro rfl; contradiction
  have hs : c ≠ '\x27' := by rintro rfl; contradiction
  rw [nextLexeme, if_neg hd, if_neg hs]

/-- A lexeme outside of quotes ends before a blank. -/
theorem nextLexeme_append_blank (rest : List Char) :
    nextLexeme c (cs ++ ' ' :: rest) = ((nextLexeme c cs).1, (nextLexeme c cs).2 ++ ' ' :: rest) := by
  have hb : ¬ isNameChar ' ' = true := by decide
  have ht : (cs ++ ' ' :: rest).takeWhile isNameChar = cs.takeWhile isNameChar := by
    rw [List.takeWhile_append]
    split
    · next h => rw [List.takeWhile_cons_of_neg hb, List.append_nil, (List.takeWhile_prefix _).eq_of_length h]
    · rfl
  have hd : (cs ++ ' ' :: rest).dropWhile isNameChar = cs.dropWhile isNameChar ++ ' ' :: rest := by
    rw [List.dropWhile_append]
    split
    · next h => rw [List.dropWhile_cons_of_neg hb, List.isEmpty_iff.1 h, List.nil_append]
    · rfl
  rw [nextLexeme_plain hq, nextLexeme_plain hq, ht, hd]
  split
  · rfl
  · split <;> rfl

end

/-- Whether a character is a lexeme by itself, whatever follows it. -/
def isSymbol (c : Char) : Bool :=
  !Reader.isSpace c && !Nesting.isQuote c && !opensWord c && !c.isDigit

theorem lexemes_symbol {c : Char} (h : isSymbol c = true) (cs : List Char) :
    lexemes (c :: cs) = .symbol c :: lexemes cs := by
  simp only [isSymbol, Bool.and_eq_true, Bool.not_eq_true'] at h
  obtain ⟨⟨⟨hs, hq⟩, ho⟩, hd⟩ := h
  rw [lexemes_cons hs, nextLexeme_plain hq, if_neg (by rw [ho]; decide), if_neg (by rw [hd]; decide)]

theorem nextLexeme_subset {c d : Char} {cs : List Char} (hq : Nesting.isQuote c = false)
    (h : d ∈ (nextLexeme c cs).2) : d ∈ cs := by
  rw [nextLexeme_plain hq] at h
  split at h
  · exact (List.dropWhile_sublist _).subset h
  · split at h
    · exact (List.dropWhile_sublist _).subset h
    · exact h

/-- A text without quotes ends where a blank follows. -/
theorem lexemes_append_blank {text : List Char} (h : text.any Nesting.isQuote = false) (rest : List Char) :
    lexemes (text ++ ' ' :: rest) = lexemes text ++ lexemes rest := by
  rw [List.any_eq_false] at h
  -- The induction goes from one lexeme to the next, and what is left of the text has no quotes either.
  induction text using lexemes.induct with
  | case1 => rw [List.nil_append, lexemes_blank, lexemes_nil, List.nil_append]
  | case2 c cs hs ih =>
    rw [List.cons_append, lexemes_space hs, lexemes_space hs, ih fun d hd => h d (List.mem_cons_of_mem _ hd)]
  | case3 c cs hs ih =>
    have hs : Reader.isSpace c = false := Bool.eq_false_iff.2 hs
    have hq : Nesting.isQuote c = false := Bool.eq_false_iff.2 (h c List.mem_cons_self)
    have hr : ∀ d ∈ (nextLexeme c cs).2, ¬ Nesting.isQuote d = true :=
      fun d hd => h d (List.mem_cons_of_mem _ (nextLexeme_subset hq hd))
    rw [List.cons_append, lexemes_cons hs, lexemes_cons hs, nextLexeme_append_blank hq, ih hr, List.cons_append]

/-! ## Names -/

theorem lexemes_identifier (name : String) {rest : List Char} (h : rest.head? ≠ some '"') :
    lexemes ((identifier name).toList ++ rest) = .name name :: lexemes rest := by
  have e : (identifier name).toList ++ rest = '"' :: (doubled '"' name.toList ++ '"' :: rest) := by
    simp [enclosed]
  have hn : nextLexeme '"' (doubled '"' name.toList ++ '"' :: rest) = (.name name, rest) := by
    rw [nextLexeme, if_pos rfl, quotedLexeme, readDoubled_doubled _ _ h]
    simp
  rw [e, lexemes_cons rfl, hn]

/-- The name that a lexeme stands for. A reserved word stands for none. -/
def Lexeme.name? : Lexeme → Option String
  | name text => some text
  | word text => if reservedWords.contains text then none else some text
  | _ => none

theorem opensWord_of_opensPlain {c : Char} (h : opensPlain c = true) : opensWord c = true := by
  have hn : isNameChar c = true := isNameChar_of_continuesPlain (Bool.or_eq_true_iff.2 (.inl h))
  rw [opensWord, hn, isDigit_of_opensPlain h, bne_iff_ne.2 (ne_of_test h '$' rfl)]
  rfl

theorem isSpace_isQuote_of_continuesPlain {c : Char} (h : continuesPlain c = true) :
    Reader.isSpace c = false ∧ Nesting.isQuote c = false := by
  have hne := ne_of_test h
  simp [Reader.isSpace, Nesting.isQuote, hne ' ' rfl, hne '\t' rfl, hne '\n' rfl, hne '\r' rfl, hne '\x0b' rfl,
    hne '\x0c' rfl, hne '"' rfl, hne '\x27' rfl]

/-- A name stands for itself, bare or quoted. -/
theorem lexemes_plainIdentifier (name : String) {rest : List Char}
    (h : ∀ c ∈ rest.head?, isNameChar c = false ∧ c ≠ '"') :
    ∃ lexeme : Lexeme, lexeme.name? = some name ∧
      lexemes ((plainIdentifier name).toList ++ rest) = lexeme :: lexemes rest := by
  rw [plainIdentifier]
  split
  · next hp =>
    obtain ⟨c, cs, e, ho, hall, hw⟩ := exists_cons_of_isPlain hp
    have hs := isSpace_isQuote_of_continuesPlain (hall c List.mem_cons_self)
    have hn : ∀ d ∈ cs, isNameChar d = true :=
      fun d hd => isNameChar_of_continuesPlain (hall d (List.mem_cons_of_mem _ hd))
    have hr : ∀ d ∈ rest.head?, isNameChar d = false := fun d hd => (h d hd).1
    refine ⟨.word name, if_neg (by rw [hw]; decide), ?_⟩
    rw [e, List.cons_append, lexemes_cons hs.1, nextLexeme_plain hs.2, if_pos (opensWord_of_opensPlain ho),
      takeWhile_append_stop hn hr, dropWhile_append_stop hn hr, map_toLower_of_continuesPlain hall, ← e,
      String.ofList_toList]
  · exact ⟨.name name, rfl, lexemes_identifier name fun e => (h _ e).2 rfl⟩

/-- The lexemes of names that are separated by commas. -/
def nameLexemes (names : List String) : List Lexeme :=
  (names.map .name).intersperse (.symbol ',')

theorem lexemes_identifiers (names : List String) {rest : List Char} (h : rest.head? ≠ some '"') :
    lexemes ((identifiers names).toList ++ rest) = nameLexemes names ++ lexemes rest := by
  rw [toList_identifiers]
  induction names with
  | nil => rfl
  | cons name names ih =>
    cases names with
    | nil =>
      rw [List.map_singleton, List.intercalate_singleton, lexemes_identifier name h]
      rfl
    | cons next names =>
      -- The next name opens with a quote, so the comma between the two is no part of either.
      rw [List.map_cons] at ih
      rw [List.map_cons, List.map_cons, List.intercalate_cons_cons, List.append_assoc, List.append_assoc,
        lexemes_identifier name (by simp), List.cons_append, List.cons_append, List.nil_append,
        lexemes_symbol (by decide), lexemes_blank, ih]
      rfl

/-! ## Reading lexemes -/

/-- What follows some words. -/
def afterWords (words : List String) (items : List Lexeme) : Option (List Lexeme) :=
  (words.map Lexeme.word).isPrefixOf? items

def readName : List Lexeme → Option (String × List Lexeme)
  | [] => none
  | item :: items => item.name?.map fun name => (name, items)

/-- Reads the rest of a list of names: a name behind each comma, and a parenthesis at the end. -/
def moreNames : List Lexeme → Option (List String × List Lexeme)
  | .symbol ')' :: items => some ([], items)
  | .symbol ',' :: item :: items => do
    let name ← item.name?
    let (names, items) ← moreNames items
    pure (name :: names, items)
  | _ => none

/-- Reads a list of names in parentheses, which may be empty. -/
def nameList : List Lexeme → Option (List String × List Lexeme)
  | .symbol '(' :: .symbol ')' :: items => some ([], items)
  | .symbol '(' :: items => do
    let (name, items) ← readName items
    let (names, items) ← moreNames items
    pure (name :: names, items)
  | _ => none

theorem afterWords_append (words : List String) (items : List Lexeme) :
    afterWords words (words.map .word ++ items) = some items := by
  rw [afterWords, List.isPrefixOf?_eq_some_iff_append_eq]

theorem moreNames_nameLexemes (name : String) (names : List String) (items : List Lexeme) :
    ∃ more, nameLexemes (name :: names) ++ .symbol ')' :: items = .name name :: more ∧
      moreNames more = some (names, items) := by
  induction names generalizing name with
  | nil => exact ⟨_, rfl, rfl⟩
  | cons next names ih =>
    obtain ⟨more, e, hm⟩ := ih next
    refine ⟨.symbol ',' :: .name next :: more, ?_, ?_⟩
    · rw [← e]
      rfl
    · rw [moreNames, hm]
      rfl

theorem nameList_nameLexemes (names : List String) (items : List Lexeme) :
    nameList (.symbol '(' :: (nameLexemes names ++ .symbol ')' :: items)) = some (names, items) := by
  cases names with
  | nil => rfl
  | cons name names =>
    obtain ⟨more, e, hm⟩ := moreNames_nameLexemes name names items
    rw [e, nameList, readName]
    · simp [Lexeme.name?, hm]
    · nofun

end CatalogDdl.Sql
