import Mathlib.Data.List.TakeWhile
import CatalogDdl.Database.Row
import CatalogDdl.Proofs.Sql.Declaration
import CatalogDdl.Proofs.Types.ColumnType

/-! # Literals in default values

What a column takes by default, where its default is a plain literal.

* `givenValue?`: the value that a default text stands for, as the database reads it.
* `IsNumber`, `IsLiteral`: numbers, and all literals: these, texts in single quotes, and the word for null.
* `givenValue?_literal`, `givenValue?_null`, `givenValue?_toString`: what texts, null and whole numbers stand for.
-/

namespace CatalogDdl
set_option autoImplicit false

/-! ## Values of default texts -/

/-- The value that a default text stands for, if it is nothing but a default. -/
def givenValue? (text : String) : Option Value :=
  match ColumnClause.defaultIn (tokens text) with
  | some (.default _ value, []) => some (value.evaluate fun _ => none)
  | _ => none

/-- Whether a text is a number, with or without a sign. -/
def IsNumber (text : String) : Prop :=
  ∃ number, number.kind = .number ∧
    (tokens text = [number] ∨ ∃ sign, (sign.key = "-" ∨ sign.key = "+") ∧ tokens text = [sign, number])

/-- Whether a text is a plain literal. The word for null may be in any case. -/
inductive IsLiteral : String → Prop
  | null {text : String} (isNull : text.toUpper = "NULL") : IsLiteral text
  | number {text : String} (isNumber : IsNumber text) : IsLiteral text
  | string (text : String) : IsLiteral (Sql.literal text)

/-! ## Tokens -/

theorem tokensAfter_cons (gap : List Char) {kind : TokenKind} {c : Char} {rest : List Char} {length : Nat}
    (h : firstToken (c :: rest) = (some kind, length + 1)) :
    tokensAfter gap (c :: rest) = ⟨gap, kind, c :: rest.take length⟩ :: tokensAfter [] (rest.drop length) := by
  rw [tokensAfter, h]
  rfl

theorem tokensAfter_single {kind : TokenKind} {c : Char} {rest : List Char}
    (h : firstToken (c :: rest) = (some kind, rest.length + 1)) :
    tokensAfter [] (c :: rest) = [⟨[], kind, c :: rest⟩] := by
  rw [tokensAfter_cons [] h, List.take_length, List.drop_length, tokensAfter]

theorem firstToken_quote (rest : List Char) :
    firstToken ('\x27' :: rest) = (some .text, quotedLength '\x27' rest + 1) := by
  rw [Nat.add_comm]
  rfl

theorem firstToken_letter (rest : List Char) {c : Char} (h : c = 'N' ∨ c = 'n') :
    firstToken (c :: rest) = (some .word, (rest.takeWhile isWordChar).length + 1) := by
  rw [Nat.add_comm]
  rcases h with rfl | rfl <;> rfl

section
variable {c : Char} (h : c.isDigit = true) (rest : List Char)
include h

theorem isSpace_of_isDigit : isSpace c = false := by
  have hb : 48 ≤ c.toNat ∧ c.toNat ≤ 57 := Char.isDigit_iff_toNat.1 h
  simp [isSpace, Sql.ne_of_test h ' ' rfl]
  omega

theorem firstToken_digit : firstToken (c :: rest) = (some .number, numberLength (c :: rest)) := by
  have hne := Sql.ne_of_test h
  have hs := isSpace_of_isDigit h
  have hq : isQuote c = false := by simp [isQuote, hne]
  rw [firstToken.eq_def]
  split
  · contradiction
  · next e => exact absurd (List.head_eq_of_cons_eq e) (hne _ rfl)
  · next e => exact absurd (List.head_eq_of_cons_eq e) (hne _ rfl)
  · next e =>
    cases e
    simp [hs, hq, hne '\ufeff' rfl, hne '\x27' rfl, h]

theorem firstToken_minus : firstToken ('-' :: c :: rest) = (some .symbol, 1) := by
  have hne := Sql.ne_of_test h
  have hl : longSymbols.find? (·.isPrefixOf ('-' :: c :: rest)) = none := by
    have hg : '>' ≠ c := (hne '>' rfl).symm
    simp [longSymbols, hg]
  rw [firstToken.eq_def]
  split
  · contradiction
  · next e => exact absurd (List.head_eq_of_cons_eq (List.tail_eq_of_cons_eq e)) (hne _ rfl)
  · next e => simp at e
  · next e =>
    cases e
    simp [hl, isSpace, isQuote, isWordChar]

end

/-! ## Texts -/

theorem quotedLength_cons {quote c : Char} (h : c ≠ quote) {cs : List Char} (hne : cs ≠ []) :
    quotedLength quote (c :: cs) = 1 + quotedLength quote cs := by
  obtain ⟨d, rest, rfl⟩ := List.exists_cons_of_ne_nil hne
  rw [quotedLength, if_neg h]

theorem upToQuote_cons {quote c : Char} (h : c ≠ quote) {cs : List Char} (hne : cs ≠ []) :
    upToQuote quote (c :: cs) = c :: upToQuote quote cs := by
  obtain ⟨d, rest, rfl⟩ := List.exists_cons_of_ne_nil hne
  rw [upToQuote, if_neg h]

/-- A text with its quotes doubled goes on to the quote that closes it. -/
theorem quotedLength_doubled (cs : List Char) :
    quotedLength '\x27' (Sql.doubled '\x27' cs ++ ['\x27']) = (Sql.doubled '\x27' cs ++ ['\x27']).length := by
  induction cs with
  | nil => rfl
  | cons c cs ih =>
    have hne : Sql.doubled '\x27' cs ++ ['\x27'] ≠ [] := List.append_ne_nil_of_right_ne_nil _ (List.cons_ne_nil _ _)
    by_cases h : c = '\x27'
    · have hq (rest : List Char) : quotedLength '\x27' ('\x27' :: '\x27' :: rest) = 2 + quotedLength '\x27' rest := rfl
      rw [Sql.doubled, if_pos h, List.cons_append, List.cons_append, hq, ih]
      simp only [List.length_cons]
      omega
    · rw [Sql.doubled, if_neg h, List.cons_append, quotedLength_cons h hne, ih, List.length_cons, Nat.add_comm]

theorem upToQuote_doubled (cs : List Char) : upToQuote '\x27' (Sql.doubled '\x27' cs ++ ['\x27']) = cs := by
  induction cs with
  | nil => rfl
  | cons c cs ih =>
    have hne : Sql.doubled '\x27' cs ++ ['\x27'] ≠ [] := List.append_ne_nil_of_right_ne_nil _ (List.cons_ne_nil _ _)
    by_cases h : c = '\x27'
    · have hq (rest : List Char) : upToQuote '\x27' ('\x27' :: '\x27' :: rest) = '\x27' :: upToQuote '\x27' rest := rfl
      rw [Sql.doubled, if_pos h, List.cons_append, List.cons_append, hq, ih, h]
    · rw [Sql.doubled, if_neg h, List.cons_append, upToQuote_cons h hne, ih]

theorem tokens_literal (text : String) : tokens (Sql.literal text) = [⟨[], .text, (Sql.literal text).toList⟩] := by
  rw [tokens, Sql.toList_literal, Sql.enclosed]
  refine tokensAfter_single ?_
  rw [firstToken_quote, quotedLength_doubled]

theorem givenValue?_single {text : String} {token : Token} (h : tokens text = [token]) (hk : token.key ≠ "(") :
    givenValue? text = some ((ColumnClause.constant token).evaluate fun _ => none) := by
  have hd : ColumnClause.defaultIn [token] =
      some (.default (String.ofList token.written) (ColumnClause.constant token), []) := by
    rw [ColumnClause.defaultIn.eq_def]
    split
    · contradiction
    · next e =>
      cases e
      split
      · next he => exact absurd he hk
      · next e => contradiction
      · next e => contradiction
      · rfl
  rw [givenValue?, h, hd]

theorem givenValue?_literal (text : String) : givenValue? (Sql.literal text) = some (.ofString text) := by
  have hu : unquoted (Sql.literal text).toList = text.toList := by
    rw [Sql.toList_literal]
    exact upToQuote_doubled text.toList
  have hc : ColumnClause.constant ⟨[], .text, (Sql.literal text).toList⟩ = .value (.ofString text) := by
    rw [ColumnClause.constant, Expression.ofToken, hu]
    rfl
  have hk : Token.key ⟨[], .text, (Sql.literal text).toList⟩ = "" := rfl
  rw [givenValue?_single (tokens_literal text) (by rw [hk]; decide), hc, Expression.evaluate]

/-! ## Null -/

theorem toUpper_cases {c d : Char} (h : c.toUpper = d) : c = d ∨ c.isLower = true := by
  by_cases hc : 'a'.val ≤ c.val ∧ c.val ≤ 'z'.val
  · exact .inr (Bool.and_eq_true_iff.2 ⟨decide_eq_true hc.1, decide_eq_true hc.2⟩)
  · exact .inl ((dif_neg hc).symm.trans h)

theorem eq_letter_of_toUpper {c : Char} (h : c.toUpper = 'N') : c = 'N' ∨ c = 'n' := by
  rcases toUpper_cases h with rfl | hl
  · exact .inl rfl
  · have hw : DeclaredType.continuesWord c = true := by
      have e : c.isAlphanum = (c.isUpper || c.isLower || c.isDigit) := rfl
      simp [DeclaredType.continuesWord, e, hl]
    refine DeclaredType.of_continuesWord (p := fun c => c.toUpper = 'N' → c = 'N' ∨ c = 'n') ?_ hw h
    decide

theorem isWordChar_of_toUpper {c : Char} (h : c.toUpper ∈ ['U', 'L']) : isWordChar c = true := by
  rcases toUpper_cases rfl with hc | hl
  · rw [← hc] at h
    have ha : ['U', 'L'].all isWordChar = true := by decide
    exact List.all_eq_true.1 ha c h
  · have e : c.isAlphanum = (c.isUpper || c.isLower || c.isDigit) := rfl
    simp [isWordChar, e, hl]

theorem head?_ne_of_null {text : String} (h : text.toUpper = "NULL") : text.toList.head? ≠ some '\x27' := by
  intro hq
  have hm : text.toList.map Char.toUpper = ['N', 'U', 'L', 'L'] := by
    rw [← String.toList_map]
    exact congrArg String.toList h
  have hh := congrArg List.head? hm
  rw [List.head?_map, hq] at hh
  contradiction

theorem givenValue?_null {text : String} (h : text.toUpper = "NULL") : givenValue? text = some .null := by
  have hm : text.toList.map Char.toUpper = ['N', 'U', 'L', 'L'] := by
    rw [← String.toList_map]
    exact congrArg String.toList h
  obtain ⟨c, rest, e, hc, hr⟩ := List.map_eq_cons_iff.1 hm
  have hw : ∀ d ∈ rest, isWordChar d = true := by
    intro d hd
    have hu : d.toUpper ∈ ['U', 'L', 'L'] := hr ▸ List.mem_map_of_mem hd
    exact isWordChar_of_toUpper (by simpa using hu)
  have ht : tokens text = [⟨[], .word, text.toList⟩] := by
    rw [tokens, e]
    refine tokensAfter_single ?_
    rw [firstToken_letter rest (eq_letter_of_toUpper hc), List.takeWhile_eq_self_iff.2 hw]
  have hk : Token.key ⟨[], .word, text.toList⟩ = "NULL" := by
    rw [Token.key, String.ofList_toList, h]
  have hv : Expression.ofToken ⟨[], .word, text.toList⟩ = .value .null := by
    rw [Expression.ofToken]
    exact if_pos (beq_iff_eq.2 hk)
  have he : ColumnClause.constant ⟨[], .word, text.toList⟩ = .value .null := by
    rw [ColumnClause.constant, hv]
  rw [givenValue?_single ht (by rw [hk]; decide), he, Expression.evaluate]

/-! ## Numbers -/

theorem key_number {token : Token} (h : token.kind = .number) : token.key = "" := by
  rw [Token.key, h]

section
variable {text : String} {sign number : Token} (h : tokens text = [sign, number])
include h

theorem givenValue?_minus (hs : sign.key = "-") :
    givenValue? text = some ((Expression.unary .minus (ColumnClause.constant number)).evaluate fun _ => none) := by
  have hd : ColumnClause.defaultIn [sign, number] =
      some (.default (String.ofList (written [sign, number])) (.unary .minus (ColumnClause.constant number)), []) := by
    rw [ColumnClause.defaultIn.eq_def]
    simp only [hs]
  rw [givenValue?, h, hd]

theorem givenValue?_plus (hs : sign.key = "+") :
    givenValue? text = some ((ColumnClause.constant number).evaluate fun _ => none) := by
  have hd : ColumnClause.defaultIn [sign, number] =
      some (.default (String.ofList (written [sign, number])) (ColumnClause.constant number), []) := by
    rw [ColumnClause.defaultIn.eq_def]
    simp only [hs]
  rw [givenValue?, h, hd]

end

theorem IsNumber.exists_givenValue? {text : String} (h : IsNumber text) : ∃ value, givenValue? text = some value := by
  obtain ⟨number, hk, ht | ⟨sign, hs | hs, ht⟩⟩ := h
  · exact ⟨_, givenValue?_single ht (by rw [key_number hk]; decide)⟩
  · exact ⟨_, givenValue?_minus ht hs⟩
  · exact ⟨_, givenValue?_plus ht hs⟩

theorem IsNumber.head?_ne {text : String} (h : IsNumber text) : text.toList.head? ≠ some '\x27' := by
  intro hq
  obtain ⟨rest, e⟩ := List.head?_eq_some_iff.1 hq
  have ht := tokensAfter_cons [] (firstToken_quote rest)
  rw [← e] at ht
  obtain ⟨number, hk, hn | ⟨sign, hs, hn⟩⟩ := h
  · obtain ⟨rfl, -⟩ := List.cons.inj (hn.symm.trans ht)
    contradiction
  · obtain ⟨rfl, -⟩ := List.cons.inj (hn.symm.trans ht)
    have hk : Token.key ⟨[], .text, '\x27' :: rest.take (quotedLength '\x27' rest)⟩ = "" := rfl
    rw [hk] at hs
    rcases hs with hs | hs <;> contradiction

theorem fits_of_le {n : Int} (hl : -0x7FFFFFFFFFFFFFFF ≤ n) (hh : n ≤ 0x7FFFFFFFFFFFFFFF) : Value.fits n = true := by
  have hw : Value.lowest ≤ n := by
    rw [Value.lowest]
    omega
  exact Bool.and_eq_true_iff.2 ⟨decide_eq_true hw, decide_eq_true hh⟩

section
variable {digits : List Char} (hd : ∀ c ∈ digits, c.isDigit = true)
include hd

theorem not_mem_of_digits {c : Char} (hc : c.isDigit = false) : c ∉ digits := by
  intro hm
  rw [hd c hm] at hc
  contradiction

theorem numberLength_digits : numberLength digits = digits.length := by
  have hl : digitsLength digits = digits.length := by
    rw [digitsLength, List.takeWhile_eq_self_iff.2]
    intro c hc
    rw [hd c hc, Bool.true_or]
  have hx : ∀ c, c.isDigit = false → ∀ rest, digits ≠ '0' :: c :: rest := by
    rintro c hc rest rfl
    exact not_mem_of_digits hd hc (List.mem_cons_of_mem _ List.mem_cons_self)
  rw [numberLength.eq_def]
  split
  · next rest => exact absurd rfl (hx 'x' rfl rest)
  · next rest => exact absurd rfl (hx 'X' rfl rest)
  · have hf : fractionLength [] = 0 := rfl
    have he : exponentLength [] = 0 := rfl
    simp only [hl, List.drop_length, hf, Nat.add_zero, he]

theorem decimalIn_digits (hne : digits ≠ []) : decimalIn digits = some (⟨false, digits, 0, 0, true⟩, []) := by
  obtain ⟨c, rest, e⟩ := List.exists_cons_of_ne_nil hne
  have hc : ∀ d, d.isDigit = false → c ≠ d := Sql.ne_of_test (hd c (e ▸ List.mem_cons_self))
  have hs : digits.dropWhile isSpace = digits := by
    have hb : isSpace c = false := isSpace_of_isDigit (hd c (e ▸ List.mem_cons_self))
    rw [e, List.dropWhile_cons_of_neg (by rw [hb]; decide)]
  have hn : signIn digits = (false, digits) := by
    rw [signIn.eq_def]
    split
    · exact absurd (List.head_eq_of_cons_eq e).symm (hc '-' rfl)
    · exact absurd (List.head_eq_of_cons_eq e).symm (hc '+' rfl)
    · rfl
  have ht : digits.takeWhile Char.isDigit = digits := List.takeWhile_eq_self_iff.2 hd
  have hw : digits.dropWhile Char.isDigit = [] := List.dropWhile_eq_nil_iff.2 hd
  rw [decimalIn, hs, hn]
  simp [ht, hw, hne, exponentIn]

theorem ofNumber_digits (hne : digits ≠ []) (h : digitsNumber digits ≤ 0x7FFFFFFFFFFFFFFF) :
    Expression.ofNumber digits = .integer (digitsNumber digits) := by
  have hf : digits.filter (· != '_') = digits := by
    rw [List.filter_eq_self]
    intro c hc
    exact bne_iff_ne.2 (Sql.ne_of_test (hd c hc) '_' rfl)
  have hx : ∀ c, c.isDigit = false → ∀ rest, digits ≠ '0' :: c :: rest := by
    rintro c hc rest rfl
    exact not_mem_of_digits hd hc (List.mem_cons_of_mem _ List.mem_cons_self)
  rw [Expression.ofNumber, hf]
  split
  · next rest => exact absurd rfl (hx 'x' rfl rest)
  · next rest => exact absurd rfl (hx 'X' rfl rest)
  · have hi : Decimal.toInt ⟨false, digits, 0, 0, true⟩ = digitsNumber digits := rfl
    have hw : Value.fits (digitsNumber digits) = true := by
      exact fits_of_le (by omega) (by omega)
    rw [Value.numberIn, decimalIn_digits hd hne]
    simp only [Value.ofDecimal, hi, hw, Bool.true_and, if_true]

end

theorem minus_integer (n : Int) : UnaryOperator.minus.apply (.integer n) = .whole (0 - n) := by
  have hn : ((Value.integer n) == Value.null) = false := beq_false_of_ne (by simp)
  simp only [UnaryOperator.apply, hn, Value.subtract, Value.arithmetic, Value.number]
  rfl

section
variable (n : Nat)

theorem digitsNumber_toString : digitsNumber (toString n).toList = n :=
  (isNumeral_toString n).value_eq

theorem tokensAfter_toString : tokensAfter [] (toString n).toList = [⟨[], .number, (toString n).toList⟩] := by
  have hd := (isNumeral_toString n).isDigit
  have hl := numberLength_digits hd
  obtain ⟨c, rest, e⟩ := List.exists_cons_of_ne_nil (isNumeral_toString n).not_empty
  rw [e] at hd hl ⊢
  exact tokensAfter_single (by rw [firstToken_digit (hd c List.mem_cons_self), hl, List.length_cons])

variable {n}

theorem constant_toString (h : n ≤ 0x7FFFFFFFFFFFFFFF) :
    ColumnClause.constant ⟨[], .number, (toString n).toList⟩ = .value (.integer n) := by
  have hn := isNumeral_toString n
  have hv := ofNumber_digits hn.isDigit hn.not_empty (by rwa [digitsNumber_toString])
  rw [ColumnClause.constant, Expression.ofToken, hv, digitsNumber_toString]

end

theorem givenValue?_toString (n : Int) (h : n.natAbs ≤ 0x7FFFFFFFFFFFFFFF) :
    givenValue? (toString n) = some (.integer n) := by
  cases n with
  | ofNat m =>
    have ht : tokens (toString (Int.ofNat m)) = [⟨[], .number, (toString m).toList⟩] := tokensAfter_toString m
    have hm : m ≤ 0x7FFFFFFFFFFFFFFF := h
    rw [givenValue?_single ht (by rw [key_number rfl]; decide), constant_toString hm, Expression.evaluate]
    rfl
  | negSucc m =>
    obtain ⟨c, rest, e⟩ := List.exists_cons_of_ne_nil (isNumeral_toString (m + 1)).not_empty
    have hc : c.isDigit = true := (isNumeral_toString (m + 1)).isDigit c (e ▸ List.mem_cons_self)
    have hs : (toString (Int.negSucc m)).toList = '-' :: (toString (m + 1)).toList := String.toList_append
    have ht : tokens (toString (Int.negSucc m)) =
        [⟨[], .symbol, ['-']⟩, ⟨[], .number, (toString (m + 1)).toList⟩] := by
      rw [tokens, hs, e, tokensAfter_cons [] (firstToken_minus hc rest), List.take_zero, List.drop_zero, ← e,
        tokensAfter_toString]
    have hm : m + 1 ≤ 0x7FFFFFFFFFFFFFFF := h
    have hk : Token.key ⟨[], .symbol, ['-']⟩ = "-" := by decide +kernel
    have hz : (0 - (m + 1 : Nat) : Int) = Int.negSucc m := by omega
    have hf : Value.fits (Int.negSucc m) = true := fits_of_le (by omega) (by omega)
    rw [givenValue?_minus ht hk, Expression.evaluate, constant_toString hm, Expression.evaluate, minus_integer, hz,
      Value.whole, if_pos hf]

end CatalogDdl
