/-! # JSON text

Printers for JSON that is spread over lines, two spaces per level. The members of a list or object are texts
that are printed already, for the level below it.

* `Json.text`: a string with its escapes.
* `Json.list`, `Json.object`: values over several lines, or an empty pair of brackets.
-/

namespace CatalogDdl.Json
set_option autoImplicit false

/-- One hexadecimal digit, in lower case. -/
def hexDigit (n : Nat) : Char :=
  if n < 10 then Char.ofNat ('0'.toNat + n) else Char.ofNat ('a'.toNat + (n - 10))

/-- A character of a string: quotes, backslashes and control characters are escaped, all others stand as
they are. -/
def escaped (c : Char) : List Char :=
  if c == '"' then ['\\', '"']
  else if c == '\\' then ['\\', '\\']
  else if c == '\x08' then ['\\', 'b']
  else if c == '\t' then ['\\', 't']
  else if c == '\n' then ['\\', 'n']
  else if c == '\x0c' then ['\\', 'f']
  else if c == '\r' then ['\\', 'r']
  else if c.toNat < 0x20 then ['\\', 'u', '0', '0', hexDigit (c.toNat / 16), hexDigit (c.toNat % 16)]
  else [c]

def text (value : String) : String :=
  String.ofList ('"' :: (value.toList.flatMap escaped ++ ['"']))

def number (value : Nat) : String :=
  toString value

def numberOrNull : Option Nat → String
  | none => "null"
  | some value => number value

def indent (level : Nat) : String :=
  String.ofList (List.replicate (2 * level) ' ')

/-- Items between brackets at a level, one item a line. -/
def lines (opening closing : String) (level : Nat) (items : List String) : String :=
  if items.isEmpty then opening ++ closing
  else
    let body := ",\n".intercalate (items.map (indent (level + 1) ++ ·))
    opening ++ "\n" ++ body ++ "\n" ++ indent level ++ closing

def list (level : Nat) (items : List String) : String :=
  lines "[" "]" level items

def object (level : Nat) (members : List (String × String)) : String :=
  lines "\x7b" "\x7d" level (members.map fun (key, value) => text key ++ ": " ++ value)

end CatalogDdl.Json
