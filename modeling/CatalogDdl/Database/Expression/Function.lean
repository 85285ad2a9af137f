import CatalogDdl.Database.Value

/-! # Functions

The functions that expressions can call, from values to a value. `callFunction` gives an unknown value for a
function that is not among them.
-/

namespace CatalogDdl
set_option autoImplicit false

/-! ## Texts -/

/-- A part of a list, from a place counted from 1, or from the end if it is negative. A negative length counts
what comes before the place. -/
def slice {α : Type} (xs : List α) (place length : Int) : List α :=
  let first := if place < 0 then place + xs.length else if 0 < place then place - 1 else 0
  let count := if place == 0 && 0 < length then length - 1 else (length.natAbs : Int)
  let (first, count) := if place < 0 && first < 0 then (0, max 0 (count + first)) else (first, count)
  let (first, count) := if length < 0 then
      if first < count then (0, first) else (first - count, count)
    else (first, count)
  (xs.drop first.toNat).take count.toNat

def replaced (part by_ : List Char) (fuel : Nat) (cs : List Char) : List Char :=
  match fuel, cs with
  | 0, _ | _, [] => cs
  | fuel + 1, c :: rest =>
    if part.isPrefixOf (c :: rest) then by_ ++ replaced part by_ fuel ((c :: rest).drop part.length)
    else c :: replaced part by_ fuel rest

/-- The place from 1 at which a part first occurs, or 0. -/
def placeOf {α : Type} [BEq α] (part : List α) (place : Nat) : List α → Nat
  | [] => if part.isEmpty then place else 0
  | x :: rest => if part.isPrefixOf (x :: rest) then place else placeOf part (place + 1) rest

/-- Whether a text has the form of a pattern: `%` stands for any text, `_` for any character. -/
def isLike (escape : Option Char) (pattern cs : List Char) : Bool :=
  match pattern, cs with
  | [], cs => cs.isEmpty
  | p :: pattern, [] => p == '%' && some p != escape && isLike escape pattern []
  | p :: pattern, c :: rest =>
    if some p == escape then
      match pattern with
      | [] => false
      | q :: pattern => q.toLower == c.toLower && isLike escape pattern rest
    else if p == '%' then isLike escape pattern (c :: rest) || isLike escape (p :: pattern) rest
    else (p == '_' || p.toLower == c.toLower) && isLike escape pattern rest
termination_by pattern.length + cs.length

def hexText (bytes : List UInt8) : List Char :=
  bytes.flatMap fun b =>
    (List.replicate (2 - (Nat.toDigits 16 b.toNat).length) '0' ++ Nat.toDigits 16 b.toNat).map Char.toUpper

/-- A text in quotes, with the quotes in it doubled. -/
def quotedText (cs : List Char) : List Char :=
  '\x27' :: (cs.flatMap fun c => if c == '\x27' then [c, c] else [c]) ++ ['\x27']

namespace Value

/-! ## Numbers -/

def absolute : Value → Value
  | null => null
  | integer n => if n == lowest then unknown else integer n.natAbs
  | value => (value.toReal?.map fun x => ofReal (if x < 0 then -x else x)).getD unknown

/-- A value as a number, if it is one as a whole. -/
def numeric : Value → Value
  | text cs => (wholeNumber? cs).getD (text cs)
  | value => value

def sign (value : Value) : Value :=
  match value.numeric with
  | integer n => integer n.sign
  | real x => integer (if x < 0 then -1 else if 0 < x then 1 else 0)
  | unknown => unknown
  | _ => null

/-- A real number rounded to a number of places after the point; a half goes away from zero. -/
def roundedReal (x : Float) (places : Nat) : Float :=
  let (numerator, denominator) := realQuotient x
  let scaled := (2 * numerator * powerOfTen places + denominator) / (2 * denominator)
  let size := Float.ofScientific scaled true places
  if x < 0 then -size else size

def rounded (value : Value) (places : Int) : Value :=
  match value.toReal? with
  | some x => if x.isFinite then ofReal (roundedReal x (max 0 (min 30 places)).toNat) else real x
  | none => value

/-! ## Texts -/

/-- Turns a value into another by its text. -/
def mapText (f : List Char → Value) (value : Value) : Value :=
  match value.toText? with
  | some cs => f cs
  | none => value

def length : Value → Value
  | blob bytes => integer bytes.length
  | value => value.mapText fun cs => integer (cs.takeWhile (· != '\x00')).length

def byteLength : Value → Value
  | blob bytes => integer bytes.length
  | value => value.mapText fun cs => integer (Text.encoded (String.ofList cs)).length

/-- A part of a text. Places and lengths have 32 bits. -/
def part (value : Value) (place length : Int) : Value :=
  let place := Int.bmod place UInt32.size
  let length := Int.bmod length UInt32.size
  match value with
  | blob bytes => blob (slice bytes place length)
  | _ => value.mapText fun cs => text (slice cs place length)

def withoutEnds (left right : Bool) (chars cs : List Char) : List Char :=
  let cs := if left then cs.dropWhile (chars.contains ·) else cs
  if right then (cs.reverse.dropWhile (chars.contains ·)).reverse else cs

def typeName : Value → String
  | null => "null"
  | integer _ => "integer"
  | real _ => "real"
  | text _ => "text"
  | blob _ => "blob"
  | unknown => ""

def toBytes? : Value → Option (List UInt8)
  | blob bytes => some bytes
  | null => some []
  | value => value.toText?.map fun cs => Text.encoded (String.ofList cs)

def quoted : Value → Value
  | null => ofString "NULL"
  | text cs => text (quotedText cs)
  | blob bytes => text ('X' :: quotedText (hexText bytes))
  | value => value.mapText text

/-- Where a value occurs first in another one. -/
def place (whole part : Value) : Value :=
  match whole, part with
  | blob xs, blob ys => integer (placeOf ys 1 xs)
  | _, _ =>
    match whole.toText?, part.toText? with
    | some cs, some ds => integer (placeOf ds 1 cs)
    | _, _ => unknown

/-! ## Several values -/

/-- Applies a function to values, unless one of them is null or unknown. -/
def strictly (values : List Value) (f : Value) : Value :=
  if values.contains null then null else if values.contains unknown then unknown else f

/-- The texts of values, without those that are null or empty. -/
def texts (values : List Value) : List (List Char) :=
  (values.filterMap toText?).filter (!·.isEmpty)

/-- The value that none of the others should be `preferred` to. -/
def chosen (collation : Collation) (preferred : Ordering → Bool) : List Value → Value
  | [] => null
  | first :: more =>
    more.foldl (fun best value => if preferred (order collation value best) then value else best) first

/-- A test of a text by a pattern. -/
def likeness (pattern value : Value) (escape : Option Char) : Value :=
  match pattern.toText?, value.toText? with
  | some pattern, some cs => ofBool (isLike escape pattern cs)
  | _, _ => unknown

end Value

open Value

/-! ## Calls -/

/-- Functions that can make something of a null value. -/
def callLenient (function : String) (collation : Collation) (arguments : List Value) : Option Value :=
  match function, arguments with
  | "COALESCE", _ :: _ :: _ | "IFNULL", [_, _] => some ((arguments.find? (· != null)).getD null)
  | "NULLIF", [a, b] => some (if isAlike .blob collation a b then null else a)
  | "IIF", [condition, yes, no] =>
    some (if condition == unknown then unknown else if condition.truth? == some true then yes else no)
  | "LIKELY", [value] | "UNLIKELY", [value] | "LIKELIHOOD", [value, _] => some value
  | "TYPEOF", [value] => some (if value == unknown then unknown else ofString value.typeName)
  | "QUOTE", [value] => some value.quoted
  | "HEX", [value] => some ((value.toBytes?.map fun bytes => text (hexText bytes)).getD unknown)
  | "SIGN", [value] => some value.sign
  | "CHAR", values =>
    some (text (values.map fun value => Char.ofNat ((value.toInt?.getD 0).toNat)))
  | "CONCAT", values => some (if values.contains unknown then unknown else text (texts values).flatten)
  | "CONCAT_WS", separator :: values =>
    some (strictly [separator] (if values.contains unknown then unknown
      else text (((texts values).intersperse (separator.toText?.getD [])).flatten)))
  | "REPLACE", [value, part, _] =>
    if part.toText? == some [] then some (strictly [value] (value.mapText text)) else none
  | "SQLITE_VERSION", [] => some (ofString "3.46.0")
  | _, _ => none

/-- Functions that make null of a null value. -/
def callStrict (function : String) (collation : Collation) (arguments : List Value) : Value :=
  match function, arguments with
  | "ABS", [value] => value.absolute
  | "MAX", _ :: _ :: _ => chosen collation (· == .gt) arguments
  | "MIN", _ :: _ :: _ => chosen collation (· != .gt) arguments
  | "LENGTH", [value] => value.length
  | "OCTET_LENGTH", [value] => value.byteLength
  | "LOWER", [value] => value.mapText fun cs => text (cs.map Char.toLower)
  | "UPPER", [value] => value.mapText fun cs => text (cs.map Char.toUpper)
  | "ROUND", [value] => value.rounded 0
  | "ROUND", [value, places] => value.rounded (places.toInt?.getD 0)
  | "SUBSTR", [value, place] | "SUBSTRING", [value, place] =>
    value.part (place.toInt?.getD 0) 1000000000
  | "SUBSTR", [value, place, length] | "SUBSTRING", [value, place, length] =>
    value.part (place.toInt?.getD 0) (length.toInt?.getD 0)
  | "TRIM", [value] => value.mapText fun cs => text (withoutEnds true true [' '] cs)
  | "LTRIM", [value] => value.mapText fun cs => text (withoutEnds true false [' '] cs)
  | "RTRIM", [value] => value.mapText fun cs => text (withoutEnds false true [' '] cs)
  | "TRIM", [value, chars] => value.mapText fun cs => text (withoutEnds true true (chars.toText?.getD []) cs)
  | "LTRIM", [value, chars] => value.mapText fun cs => text (withoutEnds true false (chars.toText?.getD []) cs)
  | "RTRIM", [value, chars] => value.mapText fun cs => text (withoutEnds false true (chars.toText?.getD []) cs)
  | "REPLACE", [value, part, substitute] =>
    value.mapText fun cs => text (replaced (part.toText?.getD []) (substitute.toText?.getD []) cs.length cs)
  | "INSTR", [whole, part] => whole.place part
  | "UNICODE", [value] =>
    value.mapText fun cs => ((cs.head?.filter (· != '\x00')).map fun c => integer c.toNat).getD null
  | "ZEROBLOB", [count] => blob (List.replicate (count.toInt?.getD 0).toNat 0)
  | "LIKE", [pattern, value] => likeness pattern value none
  | "LIKE", [pattern, value, escape] => likeness pattern value ((escape.toText?.getD []).head?)
  | _, _ => unknown

def callFunction (function : String) (collation : Collation) (arguments : List Value) : Value :=
  match callLenient function collation arguments with
  | some value => value
  | none => strictly arguments (callStrict function collation arguments)

end CatalogDdl
