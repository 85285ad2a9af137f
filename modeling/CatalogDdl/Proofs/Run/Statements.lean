import CatalogDdl.Proofs.Run.Entries
import CatalogDdl.Proofs.Table.Clause

/-! # The statements of a run

Every statement of a run is closed up to the semicolon at its end, so that a client that is given the text of
a document executes the statements of the document.

* `Table.isStatement_createStatement`, `Index.isStatement_createStatement`: the two kinds of statements.
* `Source.read_document`: the text of a document is cut into its statements and nothing else.

The default texts that are written as they are have to be closed. Names may hold anything.
-/

namespace CatalogDdl
set_option autoImplicit false
open Sql

/-! ## Statements -/

theorem isClosed_intercalate {texts : List (List Char)} (h : ∀ text ∈ texts, IsClosedText text) :
    IsClosedText ([',', ' '].intercalate texts ++ [')']) := by
  induction texts with
  | nil => rfl
  | cons text texts ih =>
    have ht : IsClosedText text := h text List.mem_cons_self
    have ih := ih fun other ho => h other (List.mem_cons_of_mem _ ho)
    cases texts with
    | nil =>
      rw [List.intercalate_singleton, IsClosedText, closed_append ht (.cons (by decide) (by decide) _)]
      rfl
    | cons next texts =>
      rw [List.intercalate_cons_cons, List.append_assoc, List.append_assoc, IsClosedText, List.cons_append,
        closed_append ht (.cons (by decide) (by decide) _)]
      exact ih

namespace Table
variable {table : Table}

theorem isStatement_createStatement (h : ∀ text ∈ table.rawDefaults, IsClosedText text.toList) :
    IsStatement table.createStatement.toList := by
  have hc : ∀ text ∈ table.clauses.map (·.sql.toList), IsClosedText text := by
    intro text hm
    obtain ⟨clause, hc, rfl⟩ := List.mem_map.1 hm
    exact composes_transparent.clauses h clause hc
  refine ⟨'C', "REATE TABLE IF NOT EXISTS ".toList ++ ((plainIdentifier table.name).toList ++ (" (".toList ++
    ([',', ' '].intercalate (table.clauses.map (·.sql.toList)) ++ [')']))), ?_, rfl, rfl, ?_⟩
  · rw [createStatement, toList_createTable]
    simp
  · have ht := composes_transparent
    refine ht.before (ht.bland (by decide)) (ht.before (ht.plainName _) ?_)
    exact (isTransparent_calm (by decide)).closed_append (isClosed_intercalate hc)

end Table

namespace Index

/-- What a statement creates where it creates an index. -/
def kind (index : Index) : String :=
  if index.unique then "UNIQUE INDEX" else "INDEX"

theorem toList_createStatement (index : Index) (table : String) :
    (index.createStatement table).toList =
      'C' :: ("REATE ".toList ++ (index.kind.toList ++ (" IF NOT EXISTS ".toList ++
        ((identifier index.name).toList ++ (" ON ".toList ++ ((identifier table).toList ++ (" ".toList ++
          ('(' :: ((identifiers index.columns).toList ++ [')'])))))))) ++ [';']) := by
  have e : index.createStatement table =
      "CREATE " ++ index.kind ++ " IF NOT EXISTS " ++ identifier index.name ++ " ON " ++ identifier table ++
        " (" ++ identifiers index.columns ++ ");" := rfl
  rw [e]
  simp

theorem isStatement_createStatement (index : Index) (table : String) :
    IsStatement (index.createStatement table).toList := by
  have hk : index.kind.toList.all isBland = true := by
    unfold kind
    cases index.unique <;> decide
  have ht := composes_transparent
  refine ⟨'C', _, index.toList_createStatement table, rfl, rfl, ht.alone ?_⟩
  refine ht.append (ht.bland (by decide)) (ht.append (ht.bland hk) (ht.append (ht.bland (by decide)) ?_))
  refine ht.append (ht.name _) (ht.append (ht.bland (by decide)) (ht.append (ht.name _) ?_))
  exact ht.append (ht.bland (by decide)) (ht.names _)

end Index

/-! ## Declared types of one word -/

namespace DeclaredType
open Text

theorem words_word {cs w : List Char} (h : word? (skipBlanks cs) = some (w, [])) : words cs = ([w], []) := by
  rw [words.eq_def]
  split
  · simp_all
  · next e =>
    obtain ⟨rfl, rfl⟩ : _ = w ∧ _ = [] := by simpa using e.symm.trans h
    rw [words.eq_def]
    rfl

theorem parse_word {text : String} (h : word? (skipBlanks text.toList) = some (text.toList, [])) :
    parse text = ⟨upper text, none⟩ := by
  rw [parse, words_word h]
  simp [size?, skipBlanks, upper]

theorem parse_integer : parse "INTEGER" = ⟨"INTEGER", none⟩ :=
  (parse_word rfl).trans rfl

end DeclaredType

/-! ## Documents -/

namespace Source
variable {source : Source} {countRows : Bool} {run : Run}

theorem isStatement_of_mem_blocks (h : (source.run countRows).value = .ok run)
    (hd : ∀ table ∈ source.readableTables, ∀ text ∈ table.rawDefaults, IsClosedText text.toList) :
    ∀ block ∈ run.document.blocks, IsStatement block.sql.toList := by
  intro block hb
  obtain ⟨table, ht, rfl | ⟨index, -, rfl⟩⟩ := exists_table_of_mem_blocks h hb
  · exact Table.isStatement_createStatement (hd table ht)
  · exact index.isStatement_createStatement table.name

/-- **The text of a document is cut into its statements**, in their order. No comment begins in it, and
nothing is left over. -/
theorem read_document (h : (source.run countRows).value = .ok run)
    (hd : ∀ table ∈ source.readableTables, ∀ text ∈ table.rawDefaults, IsClosedText text.toList) :
    Reader.read id true run.document.sql.toList =
      { mode := .plain, current := [], statements := run.document.statements.map String.toList,
        comments := 0 } := by
  have hs : ∀ text ∈ run.document.statements, IsStatement text.toList := by
    intro text hm
    obtain ⟨block, hb, rfl⟩ := List.mem_map.1 hm
    exact isStatement_of_mem_blocks h hd block hb
  have e : run.document.sql.toList = run.document.statements.flatMap fun text => text.toList ++ ['\n'] := by
    rw [Document.sql, String.toList_join, List.flatMap_map]
    refine List.flatMap_congr fun text _ => ?_
    rw [String.toList_append]
    rfl
  rw [e]
  exact Reader.read_lines hs true

/-- A source with one table whose names and defaults hold quotes, semicolons and comments. -/
def commented : Source where
  databaseName := "db"
  tableNames := .ok ["t\"; --"]
  columns := fun _ => .ok [⟨0, "a'; /*", "INTEGER", true, some "-1", 1⟩, ⟨1, "b", "TEXT", false, some "--", 0⟩]
  foreignKeys := fun _ => .ok [⟨0, 0, "p;--", "b", none, none, some "CASCADE"⟩]
  indexes := fun _ => .ok [⟨"i\n;", true, some .createIndex, [some "b"]⟩]
  rowCount := fun _ => .ok 0

/-- The table of that source. -/
def commentedTable : Table where
  name := "t\"; --"
  columns := [⟨0, "a'; /*", ⟨"INTEGER", none⟩, true, some "-1", true⟩,
    ⟨1, "b", ⟨"TEXT", none⟩, false, some "--", false⟩]
  foreignKeys := [⟨["b"], "p;--", [], some .cascade, none⟩]
  indexes := [⟨"i\n;", true, ["b"], false⟩]

theorem readTable_commented : (commented.readTable "t\"; --").value = .ok commentedTable := by
  have ht : DeclaredType.parse "TEXT" = ⟨"TEXT", none⟩ := (DeclaredType.parse_word rfl).trans rfl
  rw [commentedTable, ← DeclaredType.parse_integer, ← ht]
  rfl

theorem readableTables_commented : commented.readableTables = [commentedTable] := by
  change [(commented.readTable "t\"; --").value.toOption].filterMap id = _
  rw [readTable_commented]
  rfl

theorem run_commented :
    (commented.run false).value = .ok (Run.ofEntries "db" 1 [.read commentedTable none]) := by
  have ho : commented.outcome false "t\"; --" = .read commentedTable none := by
    rw [outcome, readTable_commented]
    rfl
  rw [run_value, ← ho]
  rfl

theorem read_document_commented :
    (∀ table ∈ commented.readableTables, ∀ text ∈ table.rawDefaults, IsClosedText text.toList) ∧
      ∃ run, (commented.run false).value = .ok run ∧ run.document.statements.length = 2 ∧
        Reader.read id true run.document.sql.toList =
          { mode := .plain, current := [], statements := run.document.statements.map String.toList,
            comments := 0 } := by
  have hd : ∀ table ∈ commented.readableTables, ∀ text ∈ table.rawDefaults, IsClosedText text.toList := by
    rw [readableTables_commented]
    decide
  exact ⟨hd, _, run_commented, rfl, read_document run_commented hd⟩

end Source

end CatalogDdl
