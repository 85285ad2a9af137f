import CatalogDdl.Database.Expression.Basic

/-! # Reading expressions

`Expression.ofTokens` reads an expression from its tokens. Operators bind by their `BinaryOperator.level`; the
tests of one operand, `IN`, `BETWEEN` and `LIKE` bind like the equality of two.
-/

namespace CatalogDdl
set_option autoImplicit false

namespace Expression

/-! ## Expected tokens -/

/-- An expression and the tokens after it. -/
abbrev Reading := Option (Expression × List Token)

/-- The tokens after an expected one. -/
def expect? (key : String) : List Token → Option (List Token)
  | token :: rest => if token.key == key then some rest else none
  | [] => none

/-- The operators of one word that come after their operand. -/
def testOfKey? : String → Option (Expression → Expression)
  | "ISNULL" => some (unary .isNull)
  | "NOTNULL" => some (fun operand => (unary .isNull operand).not)
  | _ => none

/-- The test for the truth that an expression is, if it is one of the words for it. -/
def truthTest? : Expression → Option UnaryOperator
  | name word false =>
    if sameName word "true" then some .isTrue else if sameName word "false" then some .isFalse else none
  | collated operand _ => operand.truthTest?
  | _ => none

/-- A comparison in which null is like null. What is compared with a word for a truth is tested for it. -/
def identity (negated : Bool) (left right : Expression) : Expression :=
  match right.truthTest? with
  | some test => negatedIf negated (unary test left)
  | none => binary (if negated then .isNot else .is) left right

/-! ## Expressions -/

mutual

/-- Reads an expression whose operators bind at least as tightly as a level. -/
def read (fuel level : Nat) (ts : List Token) : Reading :=
  match fuel with
  | 0 => none
  | fuel + 1 => do
    let (first, rest) ← readOperand fuel ts
    readMore fuel level first rest

/-- Reads an expression up to its first operator. -/
def readOperand (fuel : Nat) (ts : List Token) : Reading :=
  match fuel, ts with
  | 0, _ | _, [] => none
  | fuel + 1, token :: rest =>
    match token.key with
    | "(" => do
      let (inside, rest) ← read fuel 0 rest
      some (inside, ← expect? ")" rest)
    | "NOT" => (read fuel 3 rest).map fun (operand, rest) => (operand.not, rest)
    | "-" => (readOperand fuel rest).map fun (operand, rest) => (unary .minus operand, rest)
    | "+" => (readOperand fuel rest).map fun (operand, rest) => (unary .plus operand, rest)
    | "~" => (readOperand fuel rest).map fun (operand, rest) => (unary .bitNot operand, rest)
    | "CASE" =>
      match expect? "WHEN" rest with
      | some rest => readBranches fuel none [] rest
      | none => do
        let (operand, rest) ← read fuel 0 rest
        readBranches fuel (some operand) [] (← expect? "WHEN" rest)
    | "CAST" => do
      let (operand, rest) ← read fuel 0 (← expect? "(" rest)
      let (type, _, rest) := enclosed 0 (← expect? "AS" rest)
      some (cast operand (.ofType (String.ofList (written type))), rest)
    | _ =>
      match token.kind, rest with
      | .word, next :: rest =>
        if next.key == "(" then
          match expect? ")" rest with
          | some rest => some (call token.key [], rest)
          | none => (readItems fuel [] rest).map fun (items, rest) => (call token.key items, rest)
        else some (ofToken token, next :: rest)
      | .symbol, _ => none
      | _, _ => some (ofToken token, rest)

/-- Reads the operators after an expression, as far as they bind tightly enough. -/
def readMore (fuel level : Nat) (left : Expression) (ts : List Token) : Reading :=
  match fuel, ts with
  | 0, _ => none
  | _, [] => some (left, [])
  | fuel + 1, token :: rest =>
    match BinaryOperator.ofKey? token.key with
    | some operator =>
      if operator.level < level then some (left, token :: rest)
      else do
        let (right, rest) ← read fuel (operator.level + 1) rest
        readMore fuel level (binary operator left right) rest
    | none =>
      if token.key == "COLLATE" && level ≤ 11 then
        match rest with
        | collation :: rest => readMore fuel level (collated left (.ofName collation.name)) rest
        | [] => none
      else if 4 < level then some (left, token :: rest)
      else
        match testOfKey? token.key with
        | some test => readMore fuel level (test left) rest
        | none =>
          match token.key, rest with
          | "NOT", next :: rest =>
            if next.key == "NULL" then readMore fuel level (unary .isNull left).not rest
            else readComparison fuel level left true next.key rest
          | "IS", rest => readIs fuel level left rest
          | key, rest =>
            if ["BETWEEN", "IN", "LIKE", "GLOB", "REGEXP", "MATCH"].contains key then
              readComparison fuel level left false key rest
            else some (left, token :: rest)

def readIs (fuel level : Nat) (left : Expression) (ts : List Token) : Reading :=
  match fuel with
  | 0 => none
  | fuel + 1 => do
    let (negated, rest) := match expect? "NOT" ts with
      | some rest => (true, rest)
      | none => (false, ts)
    let (negated, rest) := match (expect? "DISTINCT" rest).bind (expect? "FROM") with
      | some rest => (!negated, rest)
      | none => (negated, rest)
    let (right, rest) ← read fuel 5 rest
    readMore fuel level (identity negated left right) rest

/-- Reads what follows a comparison by a word, which may be negated. -/
def readComparison (fuel level : Nat) (left : Expression) (negated : Bool) (key : String) (ts : List Token) :
    Reading :=
  match fuel with
  | 0 => none
  | fuel + 1 =>
    match key with
    | "BETWEEN" => do
      let (low, rest) ← read fuel 3 ts
      let (high, rest) ← read fuel 5 (← expect? "AND" rest)
      readMore fuel level (negatedIf negated (left.between low high)) rest
    | "IN" => do
      let rest ← expect? "(" ts
      match expect? ")" rest with
      | some rest => readMore fuel level (negatedIf negated (left.among [])) rest
      | none =>
        let (items, rest) ← readItems fuel [] rest
        readMore fuel level (negatedIf negated (left.among items)) rest
    | _ => do
      let (right, rest) ← read fuel 5 ts
      match expect? "ESCAPE" rest with
      | some rest => do
        let (escape, rest) ← read fuel 5 rest
        readMore fuel level (negatedIf negated (call key [right, left, escape])) rest
      | none => readMore fuel level (negatedIf negated (call key [right, left])) rest

/-- Reads expressions with commas between them up to a closing parenthesis, after some that are read. -/
def readItems (fuel : Nat) (items : List Expression) (ts : List Token) :
    Option (List Expression × List Token) :=
  match fuel with
  | 0 => none
  | fuel + 1 => do
    let (item, rest) ← read fuel 0 ts
    match expect? "," rest with
    | some rest => readItems fuel (items ++ [item]) rest
    | none => some (items ++ [item], ← expect? ")" rest)

/-- Reads the branches after a `WHEN`, after some that are read. -/
def readBranches (fuel : Nat) (operand : Option Expression) (branches : List (Expression × Expression))
    (ts : List Token) : Reading :=
  match fuel with
  | 0 => none
  | fuel + 1 => do
    let (condition, rest) ← read fuel 0 ts
    let (result, rest) ← read fuel 0 (← expect? "THEN" rest)
    let branches := branches ++ [(condition, result)]
    match expect? "WHEN" rest with
    | some rest => readBranches fuel operand branches rest
    | none =>
      match expect? "ELSE" rest with
      | some rest => do
        let (otherwise, rest) ← read fuel 0 rest
        some (cases operand branches otherwise, ← expect? "END" rest)
      | none => some (cases operand branches (value .null), ← expect? "END" rest)

end

def ofTokens (ts : List Token) : Expression :=
  match read (4 * ts.length + 4) 0 ts with
  | some (expression, []) => expression
  | _ => unknown

end Expression

end CatalogDdl
