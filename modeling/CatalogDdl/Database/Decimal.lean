import CatalogDdl.Database.Token

/-! # Decimal notation

Numbers as an SQLite database reads and writes them.

* `Decimal`: a number in decimal notation. `decimalIn`: the number that a text begins with.
* `Decimal.toReal`: the nearest real number. `realText`: a real number with at most fifteen digits.
-/

namespace CatalogDdl
set_option autoImplicit false

/-! ## Reading -/

/-- The value of a run of digits. -/
def digitsNumber (digits : List Char) : Nat :=
  digits.foldl (fun n c => 10 * n + (c.toNat - '0'.toNat)) 0

/-- A number in decimal notation: `places` of the digits stand after the point. It is whole if it is written
with neither a point nor an exponent. -/
structure Decimal where
  negative : Bool
  digits : List Char
  places : Nat
  exponent : Int
  isWhole : Bool
deriving DecidableEq, Repr

namespace Decimal

/-- The number without its point and its exponent. -/
def toInt (decimal : Decimal) : Int :=
  if decimal.negative then -(digitsNumber decimal.digits : Int) else digitsNumber decimal.digits

/-- The nearest real number. An exponent beyond those of real numbers is cut. -/
def toReal (decimal : Decimal) : Float :=
  let scale := max (-5000) (min 5000 (decimal.exponent - decimal.places))
  let x := Float.ofScientific (digitsNumber decimal.digits) (scale < 0) scale.natAbs
  if decimal.negative then -x else x

end Decimal

/-- Whether a text begins with a minus sign, and what follows a sign. -/
def signIn : List Char → Bool × List Char
  | '-' :: rest => (true, rest)
  | '+' :: rest => (false, rest)
  | cs => (false, cs)

/-- The exponent that a text begins with, if it begins with one, and what follows. -/
def exponentIn : List Char → Option (Int × List Char)
  | [] => none
  | e :: cs =>
    let (negative, cs) := signIn cs
    let digits := cs.takeWhile Char.isDigit
    if e.toLower != 'e' || digits.isEmpty then none
    else
      some (if negative then -(digitsNumber digits : Int) else digitsNumber digits, cs.dropWhile Char.isDigit)

/-- The number that a text begins with, after spaces, and what follows it. -/
def decimalIn (cs : List Char) : Option (Decimal × List Char) :=
  let (negative, cs) := signIn (cs.dropWhile isSpace)
  let whole := cs.takeWhile Char.isDigit
  let (hasPoint, cs) := match cs.dropWhile Char.isDigit with
    | '.' :: rest => (true, rest)
    | rest => (false, rest)
  let fraction := if hasPoint then cs.takeWhile Char.isDigit else []
  let cs := cs.drop fraction.length
  if (whole ++ fraction).isEmpty then none
  else
    match exponentIn cs with
    | some (exponent, cs) => some (⟨negative, whole ++ fraction, fraction.length, exponent, false⟩, cs)
    | none => some (⟨negative, whole ++ fraction, fraction.length, 0, !hasPoint⟩, cs)

/-! ## Writing -/

/-- The absolute value of a finite real number as a quotient. -/
def realQuotient (x : Float) : Nat × Nat :=
  let bits := x.toBits.toNat % 0x8000000000000000
  let fraction := bits % 0x10000000000000
  let exponent := bits / 0x10000000000000
  let significand := if exponent == 0 then fraction else fraction + 0x10000000000000
  let shift := max exponent 1
  if shift ≤ 1075 then (significand, 1 <<< (1075 - shift)) else (significand <<< (shift - 1075), 1)

def powerOfTen (n : Nat) : Nat :=
  Nat.pow 10 n

/-- The exponent of the first digit of a positive quotient. -/
def leadingExponent (numerator denominator : Nat) : Int :=
  let guess : Int := (Nat.toDigits 10 numerator).length - (Nat.toDigits 10 denominator).length
  let reaches :=
    denominator * powerOfTen guess.toNat ≤ numerator * powerOfTen (-guess).toNat
  if reaches then guess else guess - 1

/-- Fifteen digits of a positive quotient, rounded, with the exponent of the first one. -/
def fifteenDigits (numerator denominator : Nat) : Nat × Int :=
  let exponent := leadingExponent numerator denominator
  let scaled := numerator * powerOfTen (14 - exponent).toNat
  let unit := denominator * powerOfTen (exponent - 14).toNat
  let digits := (2 * scaled + unit) / (2 * unit)
  if digits == powerOfTen 15 then (powerOfTen 14, exponent + 1) else (digits, exponent)

/-- A fraction without the zeros at its end; it has at least one digit. -/
def fractionText (digits : List Char) : List Char :=
  let kept := (digits.reverse.dropWhile (· == '0')).reverse
  '.' :: if kept.isEmpty then ['0'] else kept

/-- An exponent with a sign and at least two digits. -/
def exponentText (exponent : Int) : List Char :=
  let digits := Nat.toDigits 10 exponent.natAbs
  'e' :: (if exponent < 0 then '-' else '+') :: (List.replicate (2 - digits.length) '0' ++ digits)

/-- Digits with a point: from the tenth of a thousandth up to fifteen digits without an exponent. -/
def pointedText (digits : List Char) (exponent : Int) : List Char :=
  if exponent < -4 || 14 < exponent then
    digits.take 1 ++ fractionText (digits.drop 1) ++ exponentText exponent
  else if exponent < 0 then
    '0' :: fractionText (List.replicate (exponent.natAbs - 1) '0' ++ digits)
  else digits.take (exponent.toNat + 1) ++ fractionText (digits.drop (exponent.toNat + 1))

def realText (x : Float) : List Char :=
  let sign := if x < 0 then ['-'] else []
  if x == 0 then "0.0".toList
  else if x.isInf then sign ++ "Inf".toList
  else
    let (numerator, denominator) := realQuotient x
    let (digits, exponent) := fifteenDigits numerator denominator
    sign ++ pointedText (Nat.toDigits 10 digits) exponent

end CatalogDdl
