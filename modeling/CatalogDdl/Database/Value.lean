import CatalogDdl.Database.Decimal
import CatalogDdl.Text.Utf8

/-! # Values

What the rows of an SQLite database hold.

* `Value`: null, whole and real numbers, texts, and bytes.
* `Value.number`, `Value.toInt?`, `Value.toText?`, `Value.truth?`: what a value is when another kind is needed.
* `Affinity`: what a column does to the values that are put into it, by its type; `Affinity.stored`.
* `Value.order`: the order of values, with texts ordered by a `Collation`.
-/

namespace CatalogDdl
set_option autoImplicit false

/-- A value. A value that is `unknown` is not null, and nothing is known to be like it. -/
inductive Value
  | null
  | integer (n : Int)
  | real (x : Float)
  | text (cs : List Char)
  | blob (bytes : List UInt8)
  | unknown
deriving DecidableEq, Repr

namespace Value

/-! ## Numbers -/

def lowest : Int :=
  -0x8000000000000000

def highest : Int :=
  0x7FFFFFFFFFFFFFFF

def fits (n : Int) : Bool :=
  lowest ≤ n && n ≤ highest

/-- A whole number, or the nearest real number if it has more than 64 bits. -/
def whole (n : Int) : Value :=
  if fits n then integer n else real (Float.ofInt n)

/-- A real number. What is not a number is null. -/
def ofReal (x : Float) : Value :=
  if x.isNaN then null else real x

def ofBool (b : Bool) : Value :=
  integer (if b then 1 else 0)

/-- A text, written out. -/
def ofString (s : String) : Value :=
  text s.toList

def ofDecimal (decimal : Decimal) : Value :=
  if decimal.isWhole && fits decimal.toInt then integer decimal.toInt else real decimal.toReal

/-- The number that a text begins with; it is zero if there is none. -/
def numberIn (cs : List Char) : Value :=
  match decimalIn cs with
  | some (decimal, _) => ofDecimal decimal
  | none => integer 0

/-- The number that a text consists of, with spaces around it. -/
def wholeNumber? (cs : List Char) : Option Value :=
  match decimalIn cs with
  | some (decimal, rest) => if rest.all isSpace then some (ofDecimal decimal) else none
  | none => none

/-- The whole number that a real number is, if it has 64 bits. -/
def asInteger? (x : Float) : Option Int :=
  let n := x.toInt64.toInt
  if Float.ofInt n == x && lowest < n && n < highest then some n else none

def number : Value → Value
  | text cs => numberIn cs
  | blob bytes => numberIn (Text.decodedChars bytes)
  | value => value

def clamped (n : Int) : Int :=
  max lowest (min highest n)

def integerIn (cs : List Char) : Int :=
  let (negative, cs) := signIn (cs.dropWhile isSpace)
  let n : Int := digitsNumber (cs.takeWhile Char.isDigit)
  clamped (if negative then -n else n)

/-- A value as a whole number, without what follows the point. -/
def toInt? : Value → Option Int
  | integer n => some n
  | real x => some x.toInt64.toInt
  | text cs => some (integerIn cs)
  | blob bytes => some (integerIn (Text.decodedChars bytes))
  | null | unknown => none

def toReal? (value : Value) : Option Float :=
  match value.number with
  | integer n => some (Float.ofInt n)
  | real x => some x
  | _ => none

/-- Whether a value counts as true. -/
def truth? (value : Value) : Option Bool :=
  match value with
  | integer n => some (n != 0)
  | _ => value.toReal?.map (· != 0)

def toText? : Value → Option (List Char)
  | integer n => some (toString n).toList
  | real x => some (realText x)
  | text cs => some cs
  | blob bytes => some (Text.decodedChars bytes)
  | null | unknown => none

end Value

/-! ## Affinities -/

/-- What a column prefers to hold. -/
inductive Affinity
  | blob | text | numeric | integer | real
deriving DecidableEq, Repr

namespace Affinity

def isNumeric : Affinity → Bool
  | numeric | integer | real => true
  | blob | text => false

def occurs (part : List Char) : List Char → Bool
  | [] => part.isEmpty
  | c :: rest => part.isPrefixOf (c :: rest) || occurs part rest

/-- The affinity of a type. It is decided by what the name of the type contains, in any case. -/
def ofType (name : String) : Affinity :=
  let contains (part : String) : Bool := occurs part.toList (name.toList.map Char.toLower)
  if contains "int" then integer
  else if ["char", "clob", "text"].any contains then text
  else if contains "blob" then blob
  else if ["real", "floa", "doub"].any contains then real
  else numeric

/-- A number as it is stored: whole if it can be. -/
def storedNumber : Value → Value
  | .real x => ((Value.asInteger? x).map .integer).getD (.real x)
  | value => value

def stored (affinity : Affinity) (value : Value) : Value :=
  let asNumber := match value with
    | .text cs => (Value.wholeNumber? cs).getD value
    | _ => value
  match affinity with
  | blob => value
  | text =>
    match value with
    | .integer _ | .real _ => (value.toText?.map .text).getD value
    | _ => value
  | numeric | integer => storedNumber asNumber
  | real =>
    match asNumber with
    | .integer n => .real (Float.ofInt n)
    | number => number

end Affinity

/-! ## Order -/

/-- Which texts are alike. -/
inductive Collation
  | binary | noCase | trailingSpaces
deriving DecidableEq, Repr

namespace Collation

def ofName (name : String) : Collation :=
  if sameName name "nocase" then noCase else if sameName name "rtrim" then trailingSpaces else binary

def image : Collation → List Char → List Char
  | binary, cs => cs
  | noCase, cs => cs.map Char.toLower
  | trailingSpaces, cs => (cs.reverse.dropWhile (· == ' ')).reverse

end Collation

/-- The order of lists by their first difference. -/
def listOrder : List Nat → List Nat → Ordering
  | [], [] => .eq
  | [], _ :: _ => .lt
  | _ :: _, [] => .gt
  | a :: as, b :: bs => if a < b then .lt else if b < a then .gt else listOrder as bs

namespace Value

def realOrder (x y : Float) : Ordering :=
  if x < y then .lt else if y < x then .gt else .eq

/-- The order of a whole number and a real one, neither of them rounded. -/
def mixedOrder (n : Int) (x : Float) : Ordering :=
  if x < -9223372036854775808.0 then .gt
  else if 9223372036854775808.0 ≤ x then .lt
  else
    let m := x.toInt64.toInt
    if n < m then .lt else if m < n then .gt else realOrder (Float.ofInt n) x

def rank : Value → Nat
  | null => 0
  | integer _ | real _ => 1
  | text _ => 2
  | blob _ => 3
  | unknown => 4

def order (collation : Collation) (a b : Value) : Ordering :=
  match a, b with
  | integer m, integer n => if m < n then .lt else if n < m then .gt else .eq
  | integer m, real y => mixedOrder m y
  | real x, integer n => (mixedOrder n x).swap
  | real x, real y => realOrder x y
  | text cs, text ds =>
    listOrder ((collation.image cs).map Char.toNat) ((collation.image ds).map Char.toNat)
  | blob xs, blob ys => listOrder (xs.map UInt8.toNat) (ys.map UInt8.toNat)
  | _, _ => if a.rank < b.rank then .lt else if b.rank < a.rank then .gt else .eq

/-- A value as it is compared with another one under an affinity. -/
def asCompared (affinity : Affinity) (value other : Value) : Value :=
  match affinity, value, other with
  | .text, .integer _, .text _ | .text, .real _, .text _ => Affinity.stored .text value
  | .blob, _, _ | .text, _, _ => value
  | _, .text cs, _ => (wholeNumber? cs).getD value
  | _, _, _ => value

/-- The order of two values that are neither null nor unknown. -/
def orderUnder? (affinity : Affinity) (collation : Collation) (a b : Value) : Option Ordering :=
  match a, b with
  | null, _ | _, null | unknown, _ | _, unknown => none
  | _, _ => some (order collation (asCompared affinity a b) (asCompared affinity b a))

def isAlike (affinity : Affinity) (collation : Collation) (a b : Value) : Bool :=
  orderUnder? affinity collation a b == some .eq

end Value

end CatalogDdl
