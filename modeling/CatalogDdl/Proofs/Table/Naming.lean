import CatalogDdl.Proofs.Run.IndexColumns
import CatalogDdl.Proofs.Sql.Lexeme

/-! # Names of tables

A table is named in the statement that creates it, in those that create its indexes, and in the foreign keys that
refer to it. The first may leave the name bare, the others never do.

* `createdTable?`, `referencedTable?`: the name of a table as the server reads it in a statement or a foreign key.
* `IndexDeclaration.ofLexemes`: the index that a statement creates, as the server reads it.
* `namesTable`: all of them name the table, and an index is read back whole.
-/

namespace CatalogDdl
set_option autoImplicit false
open Sql

namespace Sql

/-! ## Readers -/

/-- The table that a statement creates. A parenthesis has to follow its name. -/
def createdTable? (text : String) : Option String := do
  let items ← afterWords ["create", "table", "if", "not", "exists"] (lexemes text.toList)
  match ← readName items with
  | (name, .symbol '(' :: _) => some name
  | _ => none

/-- The table that a foreign key refers to. -/
def referencedTable? (text : String) : Option String := do
  let items ← afterWords ["foreign", "key"] (lexemes text.toList)
  let (_, items) ← nameList items
  let items ← afterWords ["references"] items
  let (name, _) ← readName items
  pure name

/-- Whether a word comes next, and what follows it if it does. -/
def markedWord (word : String) (items : List Lexeme) : Bool × List Lexeme :=
  match afterWords [word] items with
  | some rest => (true, rest)
  | none => (false, items)

def IndexDeclaration.ofLexemes (items : List Lexeme) : Option IndexDeclaration := do
  let items ← afterWords ["create"] items
  let (unique, items) := markedWord "unique" items
  let items ← afterWords ["index", "if", "not", "exists"] items
  let (name, items) ← readName items
  let items ← afterWords ["on"] items
  let (table, items) ← readName items
  let (columns, items) ← nameList items
  if items = [.symbol ';'] then some ⟨unique, name, table, columns⟩ else none

def IndexDeclaration.ofText (text : String) : Option IndexDeclaration :=
  ofLexemes (lexemes text.toList)

/-! ## Statements -/

theorem createdTable?_createTable (table : String) (clauses : List Clause) :
    createdTable? (createTable table clauses) = some table := by
  have hw : lexemes "CREATE TABLE IF NOT EXISTS".toList = ["create", "table", "if", "not", "exists"].map .word := by
    decide +kernel
  have hb : "CREATE TABLE IF NOT EXISTS ".toList = "CREATE TABLE IF NOT EXISTS".toList ++ [' '] := by decide +kernel
  have ho (rest : List Char) : lexemes (" (".toList ++ rest) = .symbol '(' :: lexemes rest := by
    have h : " (".toList ++ rest = ' ' :: '(' :: rest := rfl
    rw [h, lexemes_blank, lexemes_symbol (by decide)]
  have hr (rest : List Char) : ∀ c ∈ (" (".toList ++ rest).head?, isNameChar c = false ∧ c ≠ '"' := by
    intro c hc
    obtain rfl : ' ' = c := Option.some.inj hc
    decide
  obtain ⟨item, hn, hi⟩ := lexemes_plainIdentifier table (hr _)
  rw [createdTable?, toList_createTable, hb, List.append_assoc, List.singleton_append,
    lexemes_append_blank (by decide), hw, hi, ho, afterWords_append]
  simp [readName, hn]

/-- A bare name is folded to lower case, and a reserved word is no name. -/
example : createdTable? "CREATE TABLE IF NOT EXISTS Teams (" = some "teams" ∧
    createdTable? "CREATE TABLE IF NOT EXISTS order (" = none := by
  decide +kernel

theorem toList_foreignKey (columns : List String) (table : String) (referenced : List String)
    (options : List KeyOption) :
    (Clause.foreignKey columns table referenced options).sql.toList =
      "FOREIGN KEY".toList ++ ' ' :: '(' :: ((identifiers columns).toList ++ ')' :: ' ' :: ("REFERENCES".toList ++
        ' ' :: ((identifier table).toList ++ ((Clause.referencedList referenced).toList ++
          (String.join (options.map KeyOption.sql)).toList)))) := by
  rw [Clause.sql_foreignKey]
  simp [toString]

theorem head?_references (referenced : List String) (options : List KeyOption) :
    ((Clause.referencedList referenced).toList ++ (String.join (options.map KeyOption.sql)).toList).head? ≠
      some '"' := by
  cases referenced with
  | nil =>
    cases options with
    | nil => decide
    | cons option options => cases option <;> simp [Clause.referencedList, KeyOption.sql, String.join_cons]
  | cons column columns => simp [Clause.referencedList, toString]

theorem referencedTable?_foreignKey (columns : List String) (table : String) (referenced : List String)
    (options : List KeyOption) :
    referencedTable? (Clause.foreignKey columns table referenced options).sql = some table := by
  have hf : lexemes "FOREIGN KEY".toList = ["foreign", "key"].map .word := by decide +kernel
  have hr : lexemes "REFERENCES".toList = ["references"].map .word := by decide +kernel
  rw [referencedTable?, toList_foreignKey, lexemes_append_blank (by decide), hf, lexemes_symbol (by decide),
    lexemes_identifiers _ (by simp), lexemes_symbol (by decide), lexemes_blank, lexemes_append_blank (by decide), hr,
    lexemes_identifier _ (head?_references referenced options), afterWords_append]
  simp only [Option.bind_eq_bind, Option.bind_some, nameList_nameLexemes, afterWords_append]
  rfl

end Sql

/-! ## Indexes -/

namespace Index
variable (index : Index) (table : String)

/-- The words before the name of an index. -/
def openingWords : List String :=
  ["create"] ++ ((if index.unique then ["unique"] else []) ++ ["index", "if", "not", "exists"])

theorem lexemes_opening :
    lexemes ("CREATE " ++ index.kind ++ " IF NOT EXISTS").toList = index.openingWords.map .word := by
  rw [kind, openingWords]
  cases index.unique <;> decide +kernel

theorem markedWord_unique (items : List Lexeme) :
    markedWord "unique" ((if index.unique then ["unique"] else []).map .word ++
      (["index", "if", "not", "exists"].map .word ++ items)) =
        (index.unique, ["index", "if", "not", "exists"].map .word ++ items) := by
  cases index.unique <;> simp [markedWord, afterWords, List.isPrefixOf?]

theorem ofText_createStatement :
    IndexDeclaration.ofText (index.createStatement table) = some (index.declaration table) := by
  have ht : (index.createStatement table).toList =
      ("CREATE " ++ index.kind ++ " IF NOT EXISTS").toList ++ ' ' :: ((identifier index.name).toList ++ ' ' ::
        ("ON".toList ++ ' ' :: ((identifier table).toList ++ ' ' :: '(' ::
          ((identifiers index.columns).toList ++ ')' :: [';'])))) := by
    rw [toList_createStatement]
    simp
  have hq : ("CREATE " ++ index.kind ++ " IF NOT EXISTS").toList.any Nesting.isQuote = false := by
    rw [kind]
    cases index.unique <;> decide
  have ho : lexemes "ON".toList = ["on"].map .word := by decide +kernel
  rw [IndexDeclaration.ofText, ht, lexemes_append_blank hq, index.lexemes_opening, lexemes_identifier _ (by simp),
    lexemes_blank, lexemes_append_blank (by decide), ho, lexemes_identifier _ (by simp), lexemes_blank,
    lexemes_symbol (by decide), lexemes_identifiers _ (by simp), lexemes_symbol (by decide),
    lexemes_symbol (by decide), lexemes_nil]
  rw [openingWords, List.map_append, List.map_append, List.append_assoc, List.append_assoc]
  rw [IndexDeclaration.ofLexemes, afterWords_append]
  simp only [Option.bind_eq_bind, Option.bind_some, markedWord_unique, afterWords_append, readName, Lexeme.name?,
    Option.map_some, nameList_nameLexemes, if_true]
  rfl

end Index

/-! ## Agreement -/

/-- Whether the statements about a table name it alike, as the server reads them. -/
structure NamesTable (table : String) : Prop where
  created : ∀ clauses, createdTable? (createTable table clauses) = some table
  indexed : ∀ index : Index,
    IndexDeclaration.ofText (index.createStatement table) = some (index.declaration table)
  /-- A statement tells which index it creates, and of which table. -/
  unique : ∀ (index other : Index) (otherTable : String),
    index.createStatement table = other.createStatement otherTable →
      index.declaration table = other.declaration otherTable
  referenced : ∀ columns referenced options,
    referencedTable? (Clause.foreignKey columns table referenced options).sql = some table

/-- **A table is named alike wherever it is named**, and an index is read back from its statement. -/
theorem namesTable (table : String) : NamesTable table where
  created := createdTable?_createTable table
  indexed index := index.ofText_createStatement table
  unique index other otherTable h := by
    have hi := index.ofText_createStatement table
    rw [h, other.ofText_createStatement otherTable] at hi
    exact (Option.some.inj hi).symm
  referenced columns referenced options := referencedTable?_foreignKey columns table referenced options

end CatalogDdl
