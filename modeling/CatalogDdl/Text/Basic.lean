/-! # Characters and texts

* `isBlank`: the characters with the Unicode property `White_Space`. `trim`: a text without the blanks at its ends.
* `numeral?`: a run of ASCII digits as a number up to a limit; `plusNumeral?` and `signedNumeral?` allow a sign in
  front of it. Digits of other scripts are no digits here: a run that holds one is no numeral.
* `hexNumber`, `hexBytes`: hexadecimal digits as a number, and as bytes.
* `pieces`: a text, or any other list, cut at every occurrence of a character; `joined` puts it together again.
-/

namespace CatalogDdl.Text
set_option autoImplicit false

/-! ## Blanks -/

/-- Whether a character has the Unicode property `White_Space`. -/
def isBlank (c : Char) : Bool :=
  let n := c.toNat
  (0x09 ≤ n && n ≤ 0x0D) || n == 0x20 || n == 0x85 || n == 0xA0 || n == 0x1680 ||
    (0x2000 ≤ n && n ≤ 0x200A) || n == 0x2028 || n == 0x2029 || n == 0x202F || n == 0x205F || n == 0x3000

/-- The characters from the first one that is not blank. -/
def skipBlanks (cs : List Char) : List Char :=
  cs.dropWhile isBlank

def trimChars (cs : List Char) : List Char :=
  (skipBlanks (skipBlanks cs).reverse).reverse

def trim (text : String) : String :=
  String.ofList (trimChars text.toList)

theorem length_skipBlanks_le (cs : List Char) : (skipBlanks cs).length ≤ cs.length :=
  (List.dropWhile_suffix isBlank).length_le

/-! ## Decimal numerals -/

/-- The value of a run of ASCII digits, most significant digit first. -/
def digitsValue (digits : List Char) : Nat :=
  digits.foldl (fun n c => 10 * n + (c.toNat - '0'.toNat)) 0

/-- The value of a non-empty run of ASCII digits, if it is at most `most`. Leading zeros are allowed. -/
def numeral? (most : Nat) (cs : List Char) : Option Nat :=
  if cs.isEmpty || !cs.all Char.isDigit then none
  else if digitsValue cs ≤ most then some (digitsValue cs)
  else none

def plusNumeral? (most : Nat) : List Char → Option Nat
  | '+' :: cs => numeral? most cs
  | cs => numeral? most cs

/-- A numeral that may have a sign in front, from `-lowest` to `most`. -/
def signedNumeral? (lowest most : Nat) : List Char → Option Int
  | '-' :: cs => (numeral? lowest cs).map fun n => -(n : Int)
  | cs => (plusNumeral? most cs).map fun n => (n : Int)

/-! ## Hexadecimal digits -/

/-- The value of a hexadecimal digit in either case. -/
def hexValue? (c : Char) : Option Nat :=
  if c.isDigit then some (c.toNat - '0'.toNat)
  else if 'a' ≤ c.toLower && c.toLower ≤ 'f' then some (c.toLower.toNat - 'a'.toNat + 10)
  else none

def isHexDigit (c : Char) : Bool :=
  (hexValue? c).isSome

/-- The value of a run of hexadecimal digits. Other characters count as zero. -/
def hexNumber (cs : List Char) : Nat :=
  cs.foldl (fun n c => 16 * n + (hexValue? c).getD 0) 0

/-- The bytes that pairs of hexadecimal digits stand for. -/
def hexBytes : List Char → List UInt8
  | a :: b :: rest => (hexNumber [a, b]).toUInt8 :: hexBytes rest
  | _ => []

/-! ## Pieces -/

/-- The pieces of a text between the occurrences of a character. A text without any is one piece. -/
def pieces {α : Type} [DecidableEq α] (separator : α) : List α → List (List α)
  | [] => [[]]
  | c :: rest =>
    if c = separator then [] :: pieces separator rest
    else (c :: (pieces separator rest).headD []) :: (pieces separator rest).tail

def joined {α : Type} (separator : α) : List (List α) → List α
  | [] => []
  | [piece] => piece
  | piece :: more => piece ++ separator :: joined separator more

theorem pieces_ne_nil {α : Type} [DecidableEq α] (separator : α) (cs : List α) : pieces separator cs ≠ [] := by
  cases cs with
  | nil => simp [pieces]
  | cons c rest => by_cases h : c = separator <;> simp [pieces, h]

theorem joined_pieces {α : Type} [DecidableEq α] (separator : α) (cs : List α) :
    joined separator (pieces separator cs) = cs := by
  induction cs with
  | nil => rfl
  | cons c rest ih =>
    obtain ⟨piece, more, e⟩ := List.exists_cons_of_ne_nil (pieces_ne_nil separator rest)
    rw [e] at ih
    by_cases h : c = separator
    · simp [pieces, h, e, joined, ih]
    · cases more with
      | nil => simp_all [pieces, joined]
      | cons next more => simp_all [pieces, joined]

end CatalogDdl.Text
