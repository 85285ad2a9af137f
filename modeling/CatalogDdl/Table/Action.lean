import CatalogDdl.Text.Basic
import CatalogDdl.Text.UpperCase
import CatalogDdl.Traced

/-! # Referential actions

What happens to a row when the row that it refers to changes.

* `Action`: the five actions, with their SQL texts.
* `Action.ofText?` knows an action by its text, in any case and with blanks around it.
* `Action.read` reads what a database reports, and reports an unknown text.
-/

namespace CatalogDdl
set_option autoImplicit false
open Text

inductive Action
  | noAction | restrict | cascade | setNull | setDefault
deriving DecidableEq, Repr

namespace Action

def all : List Action :=
  [noAction, restrict, cascade, setNull, setDefault]

def sql : Action → String
  | noAction => "NO ACTION"
  | restrict => "RESTRICT"
  | cascade => "CASCADE"
  | setNull => "SET NULL"
  | setDefault => "SET DEFAULT"

/-- Whether leaving the action out means the same. -/
def isNoOp (action : Action) : Bool :=
  action == noAction

def ofText? (text : String) : Option Action :=
  all.find? fun action => action.sql == upper (trim text)

/-- Reads the text of an action. A blank text is no action, and any other unknown text is reported. -/
def parse (text : String) : Traced (Option Action) :=
  if trim text == "" then pure none
  else
    match ofText? text with
    | some action => pure (some action)
    | none => do
      Traced.report (.unknownAction (trim text))
      pure none

def read : Option String → Traced (Option Action)
  | none => pure none
  | some text => parse text

end Action

end CatalogDdl
