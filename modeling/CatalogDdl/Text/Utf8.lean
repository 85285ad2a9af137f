/-! # UTF-8

`encoded` gives the bytes of a text, and `decoded` the text of bytes. Bytes that are no text stand for a
replacement character: one for each longest run of bytes that some text begins with.
-/

namespace CatalogDdl.Text
set_option autoImplicit false

def encoded (text : String) : List UInt8 :=
  text.toUTF8.data.toList

/-- The lowest and the highest of each byte that follows the first byte of a character. Only a byte that begins
a character of several bytes has any. -/
def followers (first : UInt8) : List (UInt8 × UInt8) :=
  let any : UInt8 × UInt8 := (0x80, 0xBF)
  if first < 0xC2 then []
  else if first < 0xE0 then [any]
  else if first == 0xE0 then [(0xA0, 0xBF), any]
  else if first == 0xED then [(0x80, 0x9F), any]
  else if first < 0xF0 then [any, any]
  else if first == 0xF0 then [(0x90, 0xBF), any, any]
  else if first < 0xF4 then [any, any, any]
  else if first == 0xF4 then [(0x80, 0x8F), any, any]
  else []

/-- How many bytes are within their ranges, up to the first one that is not. -/
def matching : List (UInt8 × UInt8) → List UInt8 → Nat
  | (lowest, highest) :: ranges, b :: rest =>
    if lowest ≤ b && b ≤ highest then matching ranges rest + 1 else 0
  | _, _ => 0

/-- The character of a first byte and those that follow it. -/
def composed (first : UInt8) (following : List UInt8) : Char :=
  let start := match following.length with
    | 0 => first.toNat
    | 1 => first.toNat - 0xC0
    | 2 => first.toNat - 0xE0
    | _ => first.toNat - 0xF0
  Char.ofNat (following.foldl (fun value b => 64 * value + (b.toNat - 0x80)) start)

/-- The character that stands for bytes that are no text. -/
def replacement : Char :=
  '\ufffd'

def decodedChars : List UInt8 → List Char
  | [] => []
  | first :: rest =>
    let ranges := followers first
    let count := matching ranges rest
    let c :=
      if first < 0x80 || (count != 0 && count == ranges.length) then composed first (rest.take count)
      else replacement
    c :: decodedChars (rest.drop count)
termination_by bytes => bytes.length
decreasing_by
  simp only [List.length_drop, List.length_cons]
  omega

def decoded (bytes : List UInt8) : String :=
  String.ofList (decodedChars bytes)

end CatalogDdl.Text
