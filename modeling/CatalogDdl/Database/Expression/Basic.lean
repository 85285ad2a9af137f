import CatalogDdl.Database.Value
import CatalogDdl.Text.Basic

/-! # Expressions

Expressions over the columns of a row.

* `Expression`: an expression. `Expression.unknown` stands for one that cannot be read.
* `BinaryOperator.level`: how tightly operators bind.
* `Expression.ofToken`: the expression that a single token is.
* `Expression.columnName?`: the column that an expression names without doing anything to it.
-/

namespace CatalogDdl
set_option autoImplicit false

/-! ## Operators -/

inductive UnaryOperator
  | minus | plus | bitNot | not | isNull | isTrue | isFalse
deriving DecidableEq, Repr

inductive BinaryOperator
  | or | and | is | isNot | eq | ne | lt | le | gt | ge | bitAnd | bitOr | shiftLeft | shiftRight
  | add | subtract | multiply | divide | remainder | concat
deriving DecidableEq, Repr

namespace BinaryOperator

def ofKey? : String → Option BinaryOperator
  | "OR" => some or
  | "AND" => some and
  | "=" | "==" => some eq
  | "<>" | "!=" => some ne
  | "<" => some lt
  | "<=" => some le
  | ">" => some gt
  | ">=" => some ge
  | "&" => some bitAnd
  | "|" => some bitOr
  | "<<" => some shiftLeft
  | ">>" => some shiftRight
  | "+" => some add
  | "-" => some subtract
  | "*" => some multiply
  | "/" => some divide
  | "%" => some remainder
  | "||" => some concat
  | _ => none

/-- How tightly an operator binds. -/
def level : BinaryOperator → Nat
  | or => 1
  | and => 2
  | is | isNot | eq | ne => 4
  | lt | le | gt | ge => 5
  | bitAnd | bitOr | shiftLeft | shiftRight => 7
  | add | subtract => 8
  | multiply | divide | remainder => 9
  | concat => 10

end BinaryOperator

/-! ## Expressions -/

/-- An expression. A name in quotes that is no column is a text. -/
inductive Expression
  | value (value : Value)
  | name (name : String) (quoted : Bool)
  | unary (operator : UnaryOperator) (operand : Expression)
  | binary (operator : BinaryOperator) (left right : Expression)
  | choice (condition yes no : Expression)
  | cast (operand : Expression) (affinity : Affinity)
  | collated (operand : Expression) (collation : Collation)
  | call (function : String) (arguments : List Expression)
deriving Repr

namespace Expression

def unknown : Expression :=
  value .unknown

def not (operand : Expression) : Expression :=
  unary .not operand

def negatedIf (negated : Bool) (operand : Expression) : Expression :=
  if negated then operand.not else operand

def between (operand low high : Expression) : Expression :=
  binary .and (binary .ge operand low) (binary .le operand high)

/-- Whether an operand is one of several. Only the operand decides how they are compared. -/
def among (operand : Expression) : List Expression → Expression
  | [] => value (.integer 0)
  | [item] => binary .eq operand (unary .plus item)
  | item :: more => binary .or (binary .eq operand (unary .plus item)) (operand.among more)

/-- The first of several branches whose condition holds. With an operand the conditions are values of it. -/
def cases (operand : Option Expression) (branches : List (Expression × Expression)) (otherwise : Expression) :
    Expression :=
  branches.foldr (fun (condition, result) rest =>
    let condition := match operand with
      | some operand => binary .eq operand condition
      | none => condition
    choice condition result rest) otherwise

/-! ## Values -/

/-- The number that a token is. A hexadecimal one is taken as 64 bits with a sign. -/
def ofNumber (written : List Char) : Value :=
  match written.filter (· != '_') with
  | '0' :: 'x' :: digits | '0' :: 'X' :: digits => .integer (Int.bmod (Text.hexNumber digits) UInt64.size)
  | digits => Value.numberIn digits

/-- The moment that all questions for the time are answered with. -/
def moment : List (String × String) :=
  [("CURRENT_DATE", "2000-01-01"), ("CURRENT_TIME", "00:00:00"),
    ("CURRENT_TIMESTAMP", "2000-01-01 00:00:00")]

def ofToken (token : Token) : Expression :=
  match token.kind with
  | .number => value (ofNumber token.written)
  | .text => value (.text (unquoted token.written))
  | .blob => value (.blob (Text.hexBytes ((token.written.drop 2).dropLast)))
  | .name => name token.name true
  | .word =>
    if token.key == "NULL" then value .null
    else
      match moment.lookup token.key with
      | some text => value (.ofString text)
      | none => name token.name false
  | .symbol => unknown

/-! ## Names -/

/-- The name that an expression is, with nothing done to it but that a collation may follow. -/
def bareName? : Expression → Option String
  | .name text _ => some text
  | collated operand _ => operand.bareName?
  | _ => none

/-- The column that an expression names. A text is a name too, if at most one collation follows it. -/
def columnName? : Expression → Option String
  | value (.text cs) | collated (value (.text cs)) _ => some (String.ofList cs)
  | expression => expression.bareName?

end Expression

end CatalogDdl
