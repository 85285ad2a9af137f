import CatalogDdl.Text.Basic
import CatalogDdl.Text.UpperCase

/-! # Declared types

The type of a column as its table declares it: a name of one or more words and an optional size.

* `DeclaredType.parse` reads a type text: leading blanks, the name, blanks, and a size in parentheses. What
  does not fit after the name is no size, and a text that does not begin with a name has neither.
* `DeclaredType.named` takes a whole text as the name.
-/

namespace CatalogDdl
set_option autoImplicit false
open Text

/-- The name of a declared type in upper case, with its size. An empty name stands for no type at all. -/
structure DeclaredType where
  baseName : String
  size : Option Nat
deriving DecidableEq, Repr, Inhabited

namespace DeclaredType

/-- The largest size: sizes are unsigned numbers of 32 bits. -/
def maxSize : Nat := UInt32.size - 1

/-! ## Words -/

/-- The characters that open a word of a name: ASCII letters and the underscore. -/
def opensWord (c : Char) : Bool :=
  c.isAlpha || c == '_'

/-- The characters of a word after the first. -/
def continuesWord (c : Char) : Bool :=
  c.isAlphanum || c == '_'

/-- The first word of a text that begins with one, and what follows the word. -/
def word? : List Char → Option (List Char × List Char)
  | [] => none
  | c :: cs =>
    if opensWord c then some (c :: cs.takeWhile continuesWord, cs.dropWhile continuesWord) else none

theorem length_word? {cs w rest : List Char} (h : word? cs = some (w, rest)) : rest.length < cs.length := by
  cases cs with
  | nil => simp [word?] at h
  | cons c cs =>
    by_cases hc : opensWord c
    · simp [word?, hc] at h
      rw [← h.2]
      have := (List.dropWhile_suffix (l := cs) continuesWord).length_le
      simp only [List.length_cons]
      omega
    · simp [word?, hc] at h

/-- As many words as follow each other with only blanks between them, and what follows the last of them. -/
def words (cs : List Char) : List (List Char) × List Char :=
  match _h : word? (skipBlanks cs) with
  | none => ([], cs)
  | some (w, rest) =>
    let more := words rest
    (w :: more.1, more.2)
termination_by cs.length
decreasing_by
  have h1 := length_word? _h
  have h2 := length_skipBlanks_le cs
  omega

/-! ## Size -/

/-- The number in parentheses at the beginning of a text, blanks aside. -/
def size? (cs : List Char) : Option Nat :=
  match skipBlanks cs with
  | '(' :: inner =>
    let digits := skipBlanks inner
    match skipBlanks (digits.dropWhile Char.isDigit) with
    | ')' :: _ => numeral? maxSize (digits.takeWhile Char.isDigit)
    | _ => none
  | _ => none

/-! ## Reading -/

/-- Reads a type text. The words of the name are upper-cased and joined by single spaces. -/
def parse (text : String) : DeclaredType :=
  match words text.toList with
  | ([], _) => ⟨"", none⟩
  | (ws, rest) => ⟨" ".intercalate (ws.map fun w => upper (String.ofList w)), size? rest⟩

/-- The type whose name is a whole text, in upper case. -/
def named (name : String) (size : Option Nat) : DeclaredType :=
  ⟨upper name, size⟩

end DeclaredType

end CatalogDdl
