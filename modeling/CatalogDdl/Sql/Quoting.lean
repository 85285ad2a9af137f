/-! # Quoted names and literals

* `enclosed`: a text between two quotes, with every quote inside it written twice.
* `identifier`, `identifiers`: a name, or a list of names, in double quotes.
* `plainIdentifier`: a name that stands without quotes if it is plain, and in double quotes otherwise.
* `literal`: a text as a string literal, in single quotes.
-/

namespace CatalogDdl.Sql
set_option autoImplicit false

/-! ## Enclosing -/

/-- A text in which every `quote` is written twice. -/
def doubled (quote : Char) : List Char → List Char
  | [] => []
  | c :: cs => if c = quote then quote :: quote :: doubled quote cs else c :: doubled quote cs

/-- A text between two quotes, with the quotes inside it doubled. -/
def enclosed (quote : Char) (cs : List Char) : List Char :=
  quote :: (doubled quote cs ++ [quote])

@[simp] theorem doubled_append (quote : Char) (cs ds : List Char) :
    doubled quote (cs ++ ds) = doubled quote cs ++ doubled quote ds := by
  induction cs with
  | nil => rfl
  | cons c cs ih => by_cases h : c = quote <;> simp [doubled, h, ih]

/-! ## Names -/

/-- A name in double quotes. -/
def identifier (name : String) : String :=
  String.ofList (enclosed '"' name.toList)

/-- Names in double quotes, separated by commas. -/
def identifiers (names : List String) : String :=
  ", ".intercalate (names.map identifier)

@[simp] theorem toList_identifier (name : String) : (identifier name).toList = enclosed '"' name.toList := by
  simp [identifier]

/-- The words that PostgreSQL does not take as the bare name of a table. -/
def reservedWords : List String := [
  "all", "analyse", "analyze", "and", "any", "array", "as", "asc", "asymmetric", "authorization",
  "binary", "both", "case", "cast", "check", "collate", "collation", "column", "concurrently",
  "constraint", "create", "cross", "current_catalog", "current_date", "current_role",
  "current_schema", "current_time", "current_timestamp", "current_user", "default", "deferrable",
  "desc", "distinct", "do", "else", "end", "except", "false", "fetch", "for", "foreign", "freeze",
  "from", "full", "grant", "group", "having", "ilike", "in", "initially", "inner", "intersect",
  "into", "is", "isnull", "join", "lateral", "leading", "left", "like", "limit", "localtime",
  "localtimestamp", "natural", "not", "notnull", "null", "offset", "on", "only", "or", "order",
  "outer", "overlaps", "placing", "primary", "references", "returning", "right", "select",
  "session_user", "similar", "some", "symmetric", "system_user", "table", "tablesample", "then",
  "to", "trailing", "true", "union", "unique", "user", "using", "variadic", "verbose", "when",
  "where", "window", "with"]

/-- The characters that may open a plain name: `a` to `z` and the underscore. -/
def opensPlain (c : Char) : Bool :=
  c.isLower || c == '_'

/-- The characters of a plain name after the first. -/
def continuesPlain (c : Char) : Bool :=
  opensPlain c || c.isDigit

/-- Whether a name can stand without quotes: folding its case changes nothing and it is no reserved word. -/
def isPlain (name : String) : Bool :=
  match name.toList with
  | [] => false
  | c :: cs => opensPlain c && cs.all continuesPlain && !reservedWords.contains name

/-- A name without quotes if it is plain, and in double quotes otherwise. -/
def plainIdentifier (name : String) : String :=
  if isPlain name then name else identifier name

/-! ## Literals -/

/-- A text as a string literal. -/
def literal (text : String) : String :=
  String.ofList (enclosed '\x27' text.toList)

@[simp] theorem toList_literal (text : String) : (literal text).toList = enclosed '\x27' text.toList := by
  simp [literal]

end CatalogDdl.Sql
