/-! # Documents

A `Document` is a list of statements, each a `Block` that says which table it is about.
-/

namespace CatalogDdl
set_option autoImplicit false

/-- A statement with the table that it is about. -/
inductive Block
  | createTable (table sql : String)
  | createIndex (table name sql : String)
deriving DecidableEq, Repr

namespace Block

def table : Block → String
  | createTable table _ | createIndex table _ _ => table

def sql : Block → String
  | createTable _ sql | createIndex _ _ sql => sql

def isTable : Block → Bool
  | createTable .. => true
  | createIndex .. => false

end Block

/-- The statements of a run, in the order in which they are to be executed. -/
structure Document where
  blocks : List Block
deriving DecidableEq, Repr

namespace Document

def tableBlocks (document : Document) : List Block :=
  document.blocks.filter (·.isTable)

def indexBlocks (document : Document) : List Block :=
  document.blocks.filter (!·.isTable)

def statements (document : Document) : List String :=
  document.blocks.map (·.sql)

/-- All statements, one after the other, each followed by a line break. -/
def sql (document : Document) : String :=
  String.join (document.statements.map (· ++ "\n"))

end Document

end CatalogDdl
