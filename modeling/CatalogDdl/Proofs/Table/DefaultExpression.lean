import CatalogDdl.Proofs.Database.Affinity
import CatalogDdl.Proofs.Database.Literal
import CatalogDdl.Proofs.Run.Declarations

/-! # Default expressions

What the expression after `DEFAULT` denotes.

* `Sql.readLiteral`, `Sql.constant?`: a string literal, and the value that an expression denotes if it is a string
  literal or null.
* `Column.QuotesDefault`: a default text becomes a literal of itself where the type needs one, and only once.
* `Column.quotesDefault`: this holds of every column.
* `SchemaColumn.takenDefault?`: the value that a column of the database takes by default, under its affinity.
* `Column.KeepsDefault`: the expression denotes this value, as a text.
* `Column.meansDefault`: which literals keep their meaning on columns of texts.
-/

namespace CatalogDdl
set_option autoImplicit false

/-! ## Constants -/

namespace Sql

/-- Reads a string literal. -/
def readLiteral (cs : List Char) : Option (String × List Char) :=
  (readEnclosed '\x27' cs).map fun (text, rest) => (String.ofList text, rest)

/-- The value of an expression that is a string literal or null. -/
def constant? (expression : String) : Option Value :=
  match readLiteral expression.toList with
  | some (text, []) => some (.ofString text)
  | _ => if expression.toUpper == "NULL" then some .null else none

theorem readLiteral_literal (text : String) {rest : List Char} (h : rest.head? ≠ some '\x27') :
    readLiteral ((literal text).toList ++ rest) = some (text, rest) := by
  rw [readLiteral, toList_literal, readEnclosed_enclosed _ _ h]
  simp

theorem constant?_literal (text : String) : constant? (literal text) = some (.ofString text) := by
  have hn : ([] : List Char).head? ≠ some '\x27' := nofun
  have h := readLiteral_literal text hn
  rw [List.append_nil] at h
  rw [constant?, h]

end Sql

/-! ## Quoting -/

theorem TargetType.isTextualOrTemporal_iff {target : TargetType} :
    target.isTextualOrTemporal = true ↔ target ∈ [.text, .varchar, .date, .timestamp] := by
  cases target <;> decide

namespace Column
variable (column : Column)

theorem standsAsIs_iff {column : Column} {text : String} :
    column.standsAsIs text = true ↔
      text.toList.head? = some '\x27' ∨ column.type.target ∉ [.text, .varchar, .date, .timestamp] := by
  rw [standsAsIs, Bool.or_eq_true, beq_iff_eq, Bool.not_eq_true', ← Bool.not_eq_true,
    TargetType.isTextualOrTemporal_iff]

/-- A literal stands as it is, whatever the type. -/
theorem standsAsIs_literal (text : String) : column.standsAsIs (Sql.literal text) = true := by
  rw [standsAsIs_iff, Sql.toList_literal]
  exact .inl rfl

/-- How a column writes its default. -/
structure QuotesDefault : Prop where
  /-- A text becomes a literal of itself where the type needs one. Whatever follows it, no more than it is read. -/
  quoted : ∀ text, column.defaultText = some text → text.toList.head? ≠ some '\x27' →
    column.type.target ∈ [.text, .varchar, .date, .timestamp] →
      ∃ expression, column.defaultExpression = some expression ∧
        ∀ rest, rest.head? ≠ some '\x27' → Sql.readLiteral (expression.toList ++ rest) = some (text, rest)
  /-- Any other text stays as it is. -/
  asIs : ∀ text, column.defaultText = some text →
    text.toList.head? = some '\x27' ∨ column.type.target ∉ [.text, .varchar, .date, .timestamp] →
      column.defaultExpression = some text
  once : ∀ expression, column.defaultExpression = some expression →
    { column with defaultText := some expression }.defaultExpression = some expression
  /-- The statement of a table declares a default in the place of the column exactly if the column has one. -/
  declared : ∀ (table : Table) (place : Nat), table.columns[place]? = some column →
    ∃ declaration declared, declaration.IsWrittenAs table.createStatement ∧
      ((∀ text ∈ table.rawDefaults, Sql.IsSelfContained text.toList) →
        Sql.TableDeclaration.read table.createStatement = some declaration) ∧
      declaration.columns[place]? = some declared ∧ declared.name = column.name ∧
        (declared.defaultExpression.isSome ↔ column.defaultText.isSome)

variable {column}

theorem defaultExpression_eq {text : String} (h : column.defaultText = some text) :
    column.defaultExpression = some (if column.standsAsIs text then text else Sql.literal text) := by
  rw [defaultExpression, h, Option.map_some]

theorem defaultExpression_literal {text : String} (h : column.defaultText = some text)
    (hq : text.toList.head? ≠ some '\x27') (ht : column.type.target ∈ [.text, .varchar, .date, .timestamp]) :
    column.defaultExpression = some (Sql.literal text) := by
  have hs : ¬ column.standsAsIs text = true := by
    rw [standsAsIs_iff]
    rintro (h | h)
    · exact hq h
    · exact h ht
  rw [defaultExpression_eq h, if_neg hs]

theorem defaultExpression_asIs {text : String} (h : column.defaultText = some text)
    (hs : column.standsAsIs text = true) : column.defaultExpression = some text := by
  rw [defaultExpression_eq h, if_pos hs]

theorem standsAsIs_defaultExpression {expression : String} (h : column.defaultExpression = some expression) :
    column.standsAsIs expression = true := by
  rcases defaultExpression_cases h with hr | ⟨text, rfl⟩
  · exact (Option.filter_eq_some_iff.1 hr).2
  · exact column.standsAsIs_literal text

/-- **A default text becomes one literal with the right value, and is never quoted twice.** -/
theorem quotesDefault (column : Column) : column.QuotesDefault where
  quoted text h hq ht :=
    ⟨_, defaultExpression_literal h hq ht, fun _ hr => Sql.readLiteral_literal text hr⟩
  asIs _ h hs := defaultExpression_asIs h (standsAsIs_iff.2 hs)
  once expression h := by
    have hs : column.standsAsIs expression = true := standsAsIs_defaultExpression h
    exact defaultExpression_asIs rfl hs
  declared table place h := by
    have hd : table.declaration.columns[place]? = some (column.declaration table.keyColumns) := by
      rw [Table.declaration, List.getElem?_map, h, Option.map_some]
    refine ⟨table.declaration, _, ⟨_, table.isMadeOf_createStatement⟩, Table.read_createStatement, hd, rfl, ?_⟩
    rw [declaration, defaultExpression, Option.isSome_map]

end Column

/-! ## Meaning -/

/-- The value that a column of the database takes where none is given: that of the default text, under the affinity of
the column. -/
def SchemaColumn.takenDefault? (origin : SchemaColumn) : Option Value :=
  (origin.default.bind fun (text, _) => givenValue? text).map origin.affinity.stored

namespace Column
variable (origin : SchemaColumn) (column : Column) (text : String)

def denotedDefault? : Option Value :=
  column.defaultExpression.bind Sql.constant?

/-- Whether the default expression denotes the value that the column takes in the database, as a text. -/
def KeepsDefault : Prop :=
  ∃ taken, origin.takenDefault? = some taken ∧ column.denotedDefault? = some (Affinity.text.stored taken)

/-- A column of texts as it is read from the database, with a literal for a default. -/
structure HasLiteral : Prop where
  isRead : ∃ (table : TableSchema) (ordinal place : Nat) (row : ColumnRow),
    table.columnRow origin ordinal = .ok row ∧ column = row.toColumn place
  isTextual : column.type.target = .text ∨ column.type.target = .varchar
  hasDefault : column.defaultText = some text
  isLiteral : IsLiteral text

/-- What a literal means as the default of a column, in the database and in the statement. -/
structure MeansDefault : Prop where
  /-- A string stands for itself. The column may take another value for it. -/
  string : ∀ content, text = Sql.literal content →
    origin.takenDefault? = some (origin.affinity.stored (.ofString content)) ∧
      column.denotedDefault? = some (.ofString content) ∧
        (column.KeepsDefault origin ↔
          Affinity.text.stored (origin.affinity.stored (.ofString content)) = .ofString content)
  /-- It does not if it prefers no numbers, or if the string is none. -/
  kept : ∀ content, text = Sql.literal content →
    origin.affinity.isNumeric = false ∨ Value.wholeNumber? content.toList = none →
      origin.takenDefault? = some (.ofString content) ∧ column.KeepsDefault origin
  /-- Else it takes a whole number for its digits. Then leading zeros are lost, for instance. -/
  numeral : ∀ content n, text = Sql.literal content → origin.affinity = .numeric ∨ origin.affinity = .integer →
    Value.wholeNumber? content.toList = some (.integer n) →
      origin.takenDefault? = some (.integer n) ∧ (column.KeepsDefault origin ↔ content = toString n)
  number : IsNumber text →
    column.denotedDefault? = some (.ofString text) ∧
      (column.KeepsDefault origin ↔ origin.takenDefault?.map Affinity.text.stored = some (.ofString text))
  /-- A whole number in its usual form is the text of its value, unless the column makes it real. -/
  whole : ∀ n : Int, n.natAbs ≤ 0x7FFFFFFFFFFFFFFF → text = toString n → origin.affinity ≠ .real →
    column.KeepsDefault origin
  /-- Null becomes a text too, although the column takes null. -/
  null : text.toUpper = "NULL" →
    origin.takenDefault? = some .null ∧ column.denotedDefault? = some (.ofString text) ∧ ¬ column.KeepsDefault origin
  /-- A type that is known for texts makes the column prefer texts, unless `int` is part of it. -/
  prefersTexts : ∀ type, origin.type.text = .ok type → (DeclaredType.parse type).IsTextName →
    ¬ "int".toList <:+: type.toList.map Char.toLower → origin.affinity = .text

variable {origin column text}

theorem keepsDefault_iff {taken denoted : Value} (ht : origin.takenDefault? = some taken)
    (hd : column.denotedDefault? = some denoted) :
    column.KeepsDefault origin ↔ Affinity.text.stored taken = denoted := by
  constructor
  · rintro ⟨value, hv, he⟩
    obtain rfl := Option.some.inj (ht.symm.trans hv)
    exact Option.some.inj (he.symm.trans hd)
  · rintro rfl
    exact ⟨taken, ht, hd⟩

theorem ofString_inj {a b : String} : Value.ofString a = .ofString b ↔ a = b := by
  rw [Value.ofString, Value.ofString, Value.text.injEq, String.toList_inj]

theorem denotedDefault?_string {content : String} (hd : column.defaultText = some text)
    (h : text = Sql.literal content) : column.denotedDefault? = some (.ofString content) := by
  obtain rfl := h
  rw [denotedDefault?, defaultExpression_asIs hd (column.standsAsIs_literal content), Option.bind_some,
    Sql.constant?_literal]

theorem defaultText_of_columnRow {table : TableSchema} {ordinal : Nat} {row : ColumnRow}
    (h : table.columnRow origin ordinal = .ok row) : row.defaultText = origin.default.map (·.1) := by
  cases ht : origin.type.text with
  | error fault => simp [TableSchema.columnRow, ht, bind, Except.bind] at h
  | ok type =>
    simp only [TableSchema.columnRow, ht, bind, Except.bind, Except.ok.injEq] at h
    rw [← h]

namespace HasLiteral
variable (h : HasLiteral origin column text)
include h

theorem takenDefault?_eq : origin.takenDefault? = (givenValue? text).map origin.affinity.stored := by
  obtain ⟨table, ordinal, place, row, hr, rfl⟩ := h.isRead
  have hd : origin.default.map (·.1) = some text := (defaultText_of_columnRow hr).symm.trans h.hasDefault
  obtain ⟨default, ho, rfl⟩ := Option.map_eq_some_iff.1 hd
  rw [SchemaColumn.takenDefault?, ho, Option.bind_some]

/-- A column of texts takes the default text for a text, unless it is quoted. -/
theorem denotedDefault?_ofString (hq : text.toList.head? ≠ some '\x27') :
    column.denotedDefault? = some (.ofString text) := by
  have hm : column.type.target ∈ [.text, .varchar, .date, .timestamp] := by
    rcases h.isTextual with h | h <;> simp [h]
  rw [denotedDefault?, defaultExpression_literal h.hasDefault hq hm, Option.bind_some, Sql.constant?_literal]

theorem takenDefault?_string {content : String} (hs : text = Sql.literal content) :
    origin.takenDefault? = some (origin.affinity.stored (.ofString content)) := by
  rw [h.takenDefault?_eq, hs, givenValue?_literal, Option.map_some]

theorem takenDefault?_null (hn : text.toUpper = "NULL") : origin.takenDefault? = some .null := by
  rw [h.takenDefault?_eq, givenValue?_null hn, Option.map_some, Affinity.stored_null]

theorem not_keepsDefault_of_null (hn : text.toUpper = "NULL") : ¬ column.KeepsDefault origin := by
  rw [keepsDefault_iff (h.takenDefault?_null hn) (h.denotedDefault?_ofString (head?_ne_of_null hn))]
  nofun

end HasLiteral

/-- A column of notes with a type and a default, as the database holds it. -/
def noted (type text : String) : SchemaColumn :=
  ColumnDefinition.column ⟨"note", type, false, false, false, false, some text, none, none⟩

def notes (type text : String) : TableSchema :=
  ⟨"notes", [noted type text], [], [], false, false⟩

def note (type text : String) : Column :=
  ⟨0, "note", .parse type, false, some text, false⟩

theorem hasLiteral_note {type text : String}
    (hr : (notes type text).columnRow (noted type text) 0 = .ok ⟨0, "note", type, false, some text, 0⟩)
    (ht : (note type text).type.target = .text ∨ (note type text).type.target = .varchar) (hl : IsLiteral text) :
    HasLiteral (noted type text) (note type text) text :=
  ⟨⟨_, 0, 0, _, hr, rfl⟩, ht, rfl, hl⟩

theorem target_note (text : String) :
    (note "VARCHAR(20)" text).type.target = .text ∨ (note "VARCHAR(20)" text).type.target = .varchar := by
  have h : (DeclaredType.parse "VARCHAR(20)").columnType.target = .varchar := by decide +kernel
  exact .inr h

/-- A column whose type is unknown, with digits for a default. -/
theorem hasLiteral_unknown : HasLiteral (noted "UUID" "'0010'") (note "UUID" "'0010'") "'0010'" := by
  have ht : (note "UUID" "'0010'").type.target = .text := by decide +kernel
  exact hasLiteral_note (by decide +kernel) (.inl ht) (.string "0010")

end Column

end CatalogDdl
