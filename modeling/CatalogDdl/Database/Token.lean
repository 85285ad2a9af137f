import CatalogDdl.Text.Basic

/-! # Tokens

The words that a piece of SQL consists of.

* `Token`: a word with the text before it, which has no meaning: spaces, comments and byte order marks.
* `tokens`: the tokens of a text. `written`: the text of tokens.
* `Token.key`: what a token says, if it is no name or value. `Token.name`: what it names.
-/

namespace CatalogDdl
set_option autoImplicit false

/-! ## Characters -/

def isSpace (c : Char) : Bool :=
  c == ' ' || (0x09 ≤ c.toNat && c.toNat ≤ 0x0D)

def trimRight (cs : List Char) : List Char :=
  (cs.reverse.dropWhile isSpace).reverse

def trimmed (cs : List Char) : List Char :=
  trimRight (cs.dropWhile isSpace)

def isWordChar (c : Char) : Bool :=
  c.isAlphanum || c == '_' || c == '$' || 0x80 ≤ c.toNat

def isQuote (c : Char) : Bool :=
  c == '"' || c == '\x27' || c == '`' || c == '['

def closing (quote : Char) : Char :=
  if quote == '[' then ']' else quote

/-! ## Lengths -/

/-- The length of a quoted text from its second character on. A doubled quote does not close it. -/
def quotedLength (quote : Char) : List Char → Nat
  | [] => 0
  | [_] => 1
  | c :: d :: rest =>
    if c = quote then if d = quote && quote != ']' then 2 + quotedLength quote rest else 1
    else 1 + quotedLength quote (d :: rest)

def commentLength : List Char → Nat
  | '*' :: '/' :: _ => 2
  | _ :: rest => 1 + commentLength rest
  | [] => 0

/-- The length of a run of digits. An underscore may stand between them. -/
def digitsLength (cs : List Char) : Nat :=
  (cs.takeWhile fun c => c.isDigit || c == '_').length

/-- The length of an exponent, if there is one. -/
def exponentLength : List Char → Nat
  | 'e' :: rest | 'E' :: rest =>
    match rest with
    | '+' :: d :: more | '-' :: d :: more => if d.isDigit then 3 + digitsLength more else 0
    | d :: more => if d.isDigit then 2 + digitsLength more else 0
    | [] => 0
  | _ => 0

/-- The length of a fraction, if there is one. -/
def fractionLength : List Char → Nat
  | '.' :: rest => 1 + digitsLength rest
  | _ => 0

def numberLength (cs : List Char) : Nat :=
  match cs with
  | '0' :: 'x' :: rest | '0' :: 'X' :: rest =>
    2 + (rest.takeWhile fun c => Text.isHexDigit c || c == '_').length
  | _ =>
    let whole := digitsLength cs
    let fraction := fractionLength (cs.drop whole)
    whole + fraction + exponentLength (cs.drop (whole + fraction))

/-! ## Tokens -/

inductive TokenKind
  | word | name | text | number | blob | symbol
deriving DecidableEq, Repr

/-- A word of SQL, and the text before it. -/
structure Token where
  gap : List Char
  kind : TokenKind
  written : List Char
deriving DecidableEq, Repr

def longSymbols : List (List Char) :=
  ["->>".toList, "->".toList, "||".toList, "==".toList, "<=".toList, "<>".toList, "<<".toList, ">=".toList,
    ">>".toList, "!=".toList]

/-- The kind of token that a text begins with, or none for a gap, and its length. -/
def firstToken (cs : List Char) : Option TokenKind × Nat :=
  match cs with
  | [] => (none, 0)
  | '-' :: '-' :: rest => (none, 2 + (rest.takeWhile (· != '\n')).length)
  | '/' :: '*' :: c :: rest => (none, 2 + commentLength (c :: rest))
  | c :: rest =>
    if isSpace c then (none, 1 + (rest.takeWhile isSpace).length)
    else if c == '\ufeff' then (none, 1)
    else if c == '\x27' then (some .text, 1 + quotedLength c rest)
    else if isQuote c then (some .name, 1 + quotedLength (closing c) rest)
    else if c.isDigit || (c == '.' && rest.head?.any (·.isDigit)) then (some .number, numberLength cs)
    else if c.toLower == 'x' && rest.head? == some '\x27' then (some .blob, 2 + quotedLength '\x27' rest.tail)
    else if isWordChar c && c != '$' then (some .word, 1 + (rest.takeWhile isWordChar).length)
    else (some .symbol, ((longSymbols.find? (·.isPrefixOf cs)).map (·.length)).getD 1)

/-- The tokens of a text that comes after a gap. -/
def tokensAfter (gap cs : List Char) : List Token :=
  match cs with
  | [] => []
  | c :: rest =>
    let (kind, length) := firstToken (c :: rest)
    let first := c :: rest.take (length - 1)
    match kind with
    | none => tokensAfter (gap ++ first) (rest.drop (length - 1))
    | some kind => ⟨gap, kind, first⟩ :: tokensAfter [] (rest.drop (length - 1))
termination_by cs.length
decreasing_by all_goals simp only [List.length_drop, List.length_cons]; omega

def tokens (text : String) : List Token :=
  tokensAfter [] text.toList

/-- The text of tokens, with what is between them. -/
def written : List Token → List Char
  | [] => []
  | token :: rest => token.written ++ rest.flatMap fun token => token.gap ++ token.written

/-! ## Names -/

/-- The characters up to the closing quote. A doubled quote stands for one. -/
def upToQuote (quote : Char) : List Char → List Char
  | [] => []
  | [c] => if c = quote then [] else [c]
  | c :: d :: rest =>
    if c = quote then if d = quote then quote :: upToQuote quote rest else []
    else c :: upToQuote quote (d :: rest)

/-- The name that a quoted text opens with. Other texts stay as they are. -/
def unquoted : List Char → List Char
  | [] => []
  | c :: rest => if isQuote c then upToQuote (closing c) rest else c :: rest

namespace Token

/-- A word or symbol in upper case. Names in quotes and values have no key. -/
def key (token : Token) : String :=
  match token.kind with
  | .word | .symbol => (String.ofList token.written).toUpper
  | _ => ""

def name (token : Token) : String :=
  String.ofList (unquoted token.written)

end Token

/-- Whether two names are the same but for ASCII case. -/
def sameName (a b : String) : Bool :=
  a.toLower == b.toLower

/-! ## Parentheses -/

/-- The tokens up to the parenthesis that closes an open one, the gap before it, and the tokens after it. -/
def enclosed (depth : Nat) : List Token → List Token × List Char × List Token
  | [] => ([], [], [])
  | token :: rest =>
    if token.key == ")" && depth == 0 then ([], token.gap, rest)
    else
      let next := if token.key == "(" then depth + 1 else if token.key == ")" then depth - 1 else depth
      let (inside, gap, after) := enclosed next rest
      (token :: inside, gap, after)

end CatalogDdl
