import CatalogDdl.Database.Value
import CatalogDdl.Failure

/-! # Type names

The name of a column's type, as an SQLite database keeps it.

* `typeTokens`: the tokens of a declaration that are the name of the type.
* `TypeName`: a name that is kept. `TypeName.ofTokens` reads it, `TypeName.text` is what is reported.
* `TypeName.affinity`: the affinity of a column of that type.
-/

namespace CatalogDdl
set_option autoImplicit false

/-! ## Tokens -/

/-- The words with which something else than the name of a type begins. -/
def clauseWords : List String :=
  ["CONSTRAINT", "DEFAULT", "NULL", "NOT", "PRIMARY", "UNIQUE", "CHECK", "REFERENCES", "COLLATE", "AS",
    "DEFERRABLE"]

def isTypeToken (token : Token) : Bool :=
  match token.kind with
  | .word => !clauseWords.contains token.key
  | .name | .text => true
  | .number | .blob | .symbol => false

/-- The tokens of the name of a type, with a size in parentheses, and the tokens after it. -/
def typeTokens (ts : List Token) : List Token × List Token :=
  let words := ts.takeWhile isTypeToken
  match ts.dropWhile isTypeToken with
  | [] => (words, [])
  | token :: rest =>
    if token.key == "(" && !words.isEmpty then
      let (size, gap, rest) := enclosed 0 rest
      (words ++ token :: size ++ [⟨gap, .symbol, [')']⟩], rest)
    else (words, token :: rest)

/-! ## Names -/

/-- The name of a type. One of the standard names is kept in upper case. A name can be `cut` within its last
character: then only the characters before it can be read. -/
inductive TypeName
  | missing
  | standard (name : String)
  | other (name : String)
  | cut (name : String)
deriving DecidableEq, Repr

namespace TypeName

/-- A text without a word at its end, if it ends so in any case. Spaces before the word go with it. -/
def withoutEnd? (word : String) (cs : List Char) : Option (List Char) :=
  let rest := cs.length - word.length
  if word.length ≤ cs.length && (cs.drop rest).map Char.toLower == word.toList then
    some (trimRight (cs.take rest))
  else none

/-- The words `generated always` at the end of a name of at least sixteen bytes belong to what follows it. -/
def withoutGenerated (cs : List Char) : List Char :=
  if (String.ofList cs).utf8ByteSize < 16 then cs
  else
    match withoutEnd? "always" cs with
    | none => cs
    | some rest => (withoutEnd? "generated" rest).getD rest

def standardNames : List String :=
  ["ANY", "BLOB", "INT", "INTEGER", "REAL", "TEXT"]

/-- A name that is not cut. -/
def whole (cs : List Char) : TypeName :=
  let upper := (String.ofList cs).toUpper
  if standardNames.contains upper then standard upper else other (String.ofList (unquoted cs))

/-- The name that a text is. A quote at its beginning is taken off with the last byte, unless there are more
quotes between them. -/
def ofText (cs : List Char) : TypeName :=
  match withoutGenerated cs with
  | [] => missing
  | quote :: rest =>
    match rest.reverse with
    | last :: d :: inner =>
      if isQuote quote && !(d :: inner).any isQuote then
        if last.toNat < 0x80 then whole (d :: inner).reverse else cut (String.ofList (d :: inner).reverse)
      else whole (quote :: rest)
    | _ => whole (quote :: rest)

def ofTokens (ts : List Token) : TypeName :=
  ofText (written ts)

def text : TypeName → Except SourceFault String
  | missing => .ok ""
  | standard name | other name => .ok name
  | cut name => .error (.incompleteText name.utf8ByteSize)

def affinity : TypeName → Affinity
  | missing => .blob
  | standard name | other name | cut name => .ofType name

end TypeName

end CatalogDdl
