import CatalogDdl.Database.Expression.Basic
import CatalogDdl.Database.Expression.Function

/-! # Evaluating expressions

The value of an expression in a row.

* `Scope`: the columns of a row by name, with their values.
* `Expression.evaluate`: the value of an expression. A name that is no column is a text if it is in quotes, or
  one of the words for true and false.
-/

namespace CatalogDdl
set_option autoImplicit false

/-- What a column holds, and how it is compared. -/
structure Cell where
  value : Value
  affinity : Affinity
  collation : Collation

abbrev Scope := String → Option Cell

/-! ## Operators -/

namespace Value

/-- A value of two numbers: whole numbers are taken as such, and all others as real numbers. -/
def arithmetic (onIntegers : Int → Int → Value) (onReals : Float → Float → Value) (a b : Value) :
    Value :=
  match a.number, b.number with
  | integer m, integer n => onIntegers m n
  | a, b =>
    match a.toReal?, b.toReal? with
    | some x, some y => onReals x y
    | _, _ => unknown

def add : Value → Value → Value :=
  arithmetic (fun m n => whole (m + n)) fun x y => ofReal (x + y)

def subtract : Value → Value → Value :=
  arithmetic (fun m n => whole (m - n)) fun x y => ofReal (x - y)

def multiply : Value → Value → Value :=
  arithmetic (fun m n => whole (m * n)) fun x y => ofReal (x * y)

/-- A quotient. Whole numbers are divided without a rest; there is none by zero. -/
def divide : Value → Value → Value :=
  arithmetic (fun m n => if n == 0 then null else whole (m.tdiv n)) fun x y =>
    if y == 0 then null else ofReal (x / y)

/-- The rest of a division of whole numbers. It is a real number if one of the numbers is. -/
def remainder (a b : Value) : Value :=
  match a.toInt?, b.toInt? with
  | some m, some n =>
    if n == 0 then null
    else
      arithmetic (fun _ _ => integer (m.tmod n)) (fun _ _ => real (Float.ofInt (m.tmod n))) a b
  | _, _ => unknown

/-- A whole number of 64 bits from its bits. -/
def ofBits (bits : Nat) : Value :=
  integer (Int.bmod bits UInt64.size)

/-- The bits of a whole number. -/
def bits (n : Int) : Nat :=
  (n % (UInt64.size : Int)).toNat

def onBits (f : Nat → Nat → Nat) (a b : Value) : Value :=
  match a.toInt?, b.toInt? with
  | some m, some n => ofBits (f (bits m) (bits n))
  | _, _ => unknown

/-- A number with its bits shifted to the left, or to the right by a negative amount. -/
def shifted (n amount : Int) : Value :=
  if 0 ≤ amount then
    if 64 ≤ amount then integer 0 else ofBits (bits n <<< amount.toNat)
  else integer (n.fdiv (Int.ofNat (1 <<< (min 64 amount.natAbs))))

def shift (sign : Int) (a b : Value) : Value :=
  match a.toInt?, b.toInt? with
  | some n, some amount => shifted n (sign * amount)
  | _, _ => unknown

def concat (a b : Value) : Value :=
  match a.toText?, b.toText? with
  | some cs, some ds => text (cs ++ ds)
  | _, _ => unknown

/-- What holds of two values if one of them is not decided by itself. -/
def ofTruth? (value : Value) : Option Bool → Value
  | some b => ofBool b
  | none => if value == unknown then unknown else null

def not (value : Value) : Value :=
  ofTruth? value (value.truth?.map (!·))

/-- Whether one of two values is true, or both are, if `decisive` is false. -/
def connected (decisive : Bool) (a b : Value) : Value :=
  match a.truth?, b.truth? with
  | some x, some y => ofBool (if decisive then x || y else x && y)
  | some x, none => if x == decisive then ofBool decisive else ofTruth? b none
  | none, some y => if y == decisive then ofBool decisive else ofTruth? a none
  | none, none => ofTruth? (if a == unknown then a else b) none

def compared (affinity : Affinity) (collation : Collation) (holds : Ordering → Bool) (a b : Value) : Value :=
  match orderUnder? affinity collation a b with
  | some order => ofBool (holds order)
  | none => if a == null || b == null then null else unknown

/-- Whether two values are the same, null being the same as null only. -/
def same (affinity : Affinity) (collation : Collation) (a b : Value) : Value :=
  if a == null || b == null then ofBool (a == b) else compared affinity collation (· == .eq) a b

/-- A value turned into one of another kind. -/
def castTo (affinity : Affinity) (value : Value) : Value :=
  match affinity, value with
  | _, null | _, unknown => value
  | .text, _ => (value.toText?.map text).getD value
  | .blob, _ => (value.toBytes?.map blob).getD value
  | .integer, _ => (value.toInt?.map integer).getD value
  | .real, _ => (value.toReal?.map ofReal).getD value
  | .numeric, text cs => Affinity.storedNumber (numberIn cs)
  | .numeric, blob bytes => Affinity.storedNumber (numberIn (Text.decodedChars bytes))
  | .numeric, _ => value

end Value

open Value

/-- A value of one operand. -/
def UnaryOperator.apply (operator : UnaryOperator) (value : Value) : Value :=
  match operator with
  | minus => if value == null then null else (integer 0).subtract value
  | plus => value
  | bitNot => if value == null then null else (value.toInt?.map fun n => integer (-n - 1)).getD unknown
  | not => value.not
  | isNull => ofBool (value == null)
  | isTrue => if value == unknown then unknown else ofBool (value.truth? == some true)
  | isFalse => if value == unknown then unknown else ofBool (value.truth? == some false)

/-- A value of two operands, compared under an affinity and a collation. -/
def BinaryOperator.apply (operator : BinaryOperator) (affinity : Affinity) (collation : Collation)
    (a b : Value) : Value :=
  match operator with
  | or => connected true a b
  | and => connected false a b
  | is => same affinity collation a b
  | isNot => (same affinity collation a b).not
  | eq => compared affinity collation (· == .eq) a b
  | ne => compared affinity collation (· != .eq) a b
  | lt => compared affinity collation (· == .lt) a b
  | le => compared affinity collation (· != .gt) a b
  | gt => compared affinity collation (· == .gt) a b
  | ge => compared affinity collation (· != .lt) a b
  | bitAnd => strictly [a, b] (onBits (· &&& ·) a b)
  | bitOr => strictly [a, b] (onBits (· ||| ·) a b)
  | shiftLeft => strictly [a, b] (shift 1 a b)
  | shiftRight => strictly [a, b] (shift (-1) a b)
  | add => strictly [a, b] (a.add b)
  | subtract => strictly [a, b] (a.subtract b)
  | multiply => strictly [a, b] (a.multiply b)
  | divide => strictly [a, b] (a.divide b)
  | remainder => strictly [a, b] (a.remainder b)
  | concat => strictly [a, b] (a.concat b)

/-! ## Expressions -/

def comparisonAffinity : Option Affinity → Option Affinity → Affinity
  | some a, some b => if a.isNumeric || b.isNumeric then .numeric else .blob
  | some a, none | none, some a => a
  | none, none => .blob

namespace Expression

def affinity? (scope : Scope) : Expression → Option Affinity
  | name column _ => (scope column).map (·.affinity)
  | cast _ affinity => some affinity
  | collated operand _ => operand.affinity? scope
  | _ => none

/-- The collation that an expression has as an operand, and whether it was asked for. -/
def collation? (scope : Scope) : Expression → Option (Bool × Collation)
  | name column _ => (scope column).map fun cell => (false, cell.collation)
  | collated _ collation => some (true, collation)
  | cast operand _ | unary .plus operand => operand.collation? scope
  | _ => none

/-- The collation with which two operands are compared: one that was asked for goes first, then the left one. -/
def comparisonCollation (scope : Scope) (left right : Expression) : Collation :=
  let found := [left.collation? scope, right.collation? scope].filterMap id
  ((found.find? (·.1)).or found.head?).elim .binary (·.2)

def ofName (scope : Scope) (name : String) (quoted : Bool) : Value :=
  match scope name with
  | some cell => cell.value
  | none =>
    if quoted then ofString name
    else if sameName name "true" then ofBool true
    else if sameName name "false" then ofBool false
    else .unknown

mutual

def evaluate (scope : Scope) : Expression → Value
  | value constant => constant
  | name column quoted => ofName scope column quoted
  | unary operator operand => operator.apply (operand.evaluate scope)
  | binary operator left right =>
    operator.apply (comparisonAffinity (left.affinity? scope) (right.affinity? scope))
      (comparisonCollation scope left right) (left.evaluate scope) (right.evaluate scope)
  | choice condition yes no =>
    let decision := condition.evaluate scope
    if decision == .unknown then .unknown
    else if decision.truth? == some true then yes.evaluate scope
    else no.evaluate scope
  | cast operand affinity => (operand.evaluate scope).castTo affinity
  | collated operand _ => operand.evaluate scope
  | call function arguments =>
    let collation := (arguments.filterMap (·.collation? scope)).head?.elim .binary (·.2)
    callFunction function collation (evaluateAll scope arguments)

def evaluateAll (scope : Scope) : List Expression → List Value
  | [] => []
  | first :: more => first.evaluate scope :: evaluateAll scope more

end

end Expression

end CatalogDdl
