import CatalogDdl.Database.Expression.Reading
import CatalogDdl.Database.TypeName
import CatalogDdl.Table.Action

/-! # Clauses

What the declaration of a column says after the name of its type.

* `ColumnClause`: one clause. `ColumnClause.read` reads all of them; what a database does not report, and what
  does not decide about rows of default values, is left out.
-/

namespace CatalogDdl
set_option autoImplicit false

inductive ColumnClause
  | key (isDescending isNumbered : Bool)
  | unique
  | notNull
  | default (text : String) (value : Expression)
  | generated (value : Expression)
  | collation (collation : Collation)
  | reference (table : String) (columns : Option (List String))
  | onDelete (action : Action)
  | onUpdate (action : Action)

namespace ColumnClause

/-- The tokens after words that must all be there. -/
def after? : List String → List Token → Option (List Token)
  | [], ts => some ts
  | word :: words, token :: rest => if token.key == word then after? words rest else none
  | _ :: _, [] => none

/-! ## Defaults -/

def textBetween (inside : List Token) (gap : List Char) : String :=
  String.ofList (trimmed ((inside.flatMap fun token => token.gap ++ token.written) ++ gap))

def isTruth (word : String) : Bool :=
  word == "TRUE" || word == "FALSE"

/-- The value of a token. Words that are not for true or false are texts. -/
def constant (token : Token) : Expression :=
  match Expression.ofToken token with
  | .name text _ => .name text (!isTruth token.key)
  | value => value

/-- A default value with its text, and the tokens after it. -/
def defaultIn : List Token → Option (ColumnClause × List Token)
  | [] => none
  | token :: rest =>
    match token.key, rest with
    | "(", rest =>
      let (inside, gap, rest) := enclosed 0 rest
      some (default (textBetween inside gap) (.ofTokens inside), rest)
    | "+", value :: rest => some (default (String.ofList (written [token, value])) (constant value), rest)
    | "-", value :: rest =>
      some (default (String.ofList (written [token, value])) (.unary .minus (constant value)), rest)
    | _, rest => some (default (String.ofList token.written) (constant token), rest)

/-! ## Other clauses -/

def actionWords : List (Action × List String) :=
  [(.noAction, ["NO", "ACTION"]), (.restrict, ["RESTRICT"]), (.cascade, ["CASCADE"]),
    (.setNull, ["SET", "NULL"]), (.setDefault, ["SET", "DEFAULT"])]

/-- An action, and the tokens after it. -/
def actionIn (ts : List Token) : Option (Action × List Token) :=
  actionWords.findSome? fun (action, words) => (after? words ts).map (action, ·)

/-- Names in parentheses, and the tokens after them. -/
def namesIn (ts : List Token) : Option (List String) × List Token :=
  match after? ["("] ts with
  | some rest =>
    let (inside, _, rest) := enclosed 0 rest
    (some ((inside.filter (·.key != ",")).map (·.name)), rest)
  | none => (none, ts)

def keyIn (ts : List Token) : ColumnClause × List Token :=
  let isDescending := (after? ["DESC"] ts).isSome
  let rest := ((after? ["DESC"] ts).or (after? ["ASC"] ts)).getD ts
  let rest := match after? ["ON", "CONFLICT"] rest with
    | some rest => rest.tail
    | none => rest
  match after? ["AUTOINCREMENT"] rest with
  | some rest => (key isDescending true, rest)
  | none => (key isDescending false, rest)

/-- The clause that begins with a word, and the tokens after it. -/
def clauseIn (word : String) (ts : List Token) : Option (ColumnClause × List Token) :=
  match word with
  | "DEFAULT" => defaultIn ts
  | "PRIMARY" => (after? ["KEY"] ts).map keyIn
  | "UNIQUE" => some (unique, ts)
  | "NOT" => (after? ["NULL"] ts).map (notNull, ·)
  | "COLLATE" => ts.head?.map fun name => (collation (.ofName name.name), ts.tail)
  | "AS" => (after? ["("] ts).map fun rest =>
    let (inside, _, rest) := enclosed 0 rest
    (generated (.ofTokens inside), rest)
  | "REFERENCES" => ts.head?.map fun table =>
    let (columns, rest) := namesIn ts.tail
    (reference table.name columns, rest)
  | "ON" =>
    match after? ["DELETE"] ts, after? ["UPDATE"] ts with
    | some rest, _ => (actionIn rest).map fun (action, rest) => (onDelete action, rest)
    | none, some rest => (actionIn rest).map fun (action, rest) => (onUpdate action, rest)
    | none, none => none
  | _ => none

/-- Reads at most `steps` clauses. A word that begins none is passed over, and so are parentheses. -/
def readUpTo : Nat → List Token → List ColumnClause
  | 0, _ | _, [] => []
  | steps + 1, token :: rest =>
    match clauseIn token.key rest with
    | some (clause, rest) => clause :: readUpTo steps rest
    | none => readUpTo steps (if token.key == "(" then (enclosed 0 rest).2.2 else rest)

def read (ts : List Token) : List ColumnClause :=
  readUpTo ts.length ts

/-- The clauses that name what happens to a row when the row that it refers to is deleted or changed. -/
def ofActions (delete update : Option String) : List ColumnClause :=
  read (tokens (((delete.map fun text => s!" ON DELETE {text}").getD "") ++
    ((update.map fun text => s!" ON UPDATE {text}").getD "")))

end ColumnClause

end CatalogDdl
