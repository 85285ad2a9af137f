import CatalogDdl.Proofs.Sql.Calls

/-! # The text of a statement

A statement is its clauses, joined by commas between its opening and its end (`createTable_eq_join`).
-/

namespace CatalogDdl.Sql
set_option autoImplicit false

/-! ## Clauses -/

namespace Clause

theorem sql_column (name type : String) (options : List ColumnOption) :
    (column name type options).sql =
      s!"{identifier name} {type}" ++ String.join (options.map ColumnOption.sql) := rfl

theorem sql_primaryKey (columns : List String) :
    (primaryKey columns).sql = s!"PRIMARY KEY ({identifiers columns})" :=
  String.append_empty

theorem sql_foreignKey (columns : List String) (table : String) (referenced : List String)
    (options : List KeyOption) :
    (foreignKey columns table referenced options).sql =
      s!"FOREIGN KEY ({identifiers columns}) REFERENCES {identifier table}{referencedList referenced}" ++
        String.join (options.map KeyOption.sql) := rfl

end Clause

/-! ## Whole statements -/

theorem intercalate_cons (separator text : String) (texts : List String) :
    separator.intercalate (text :: texts) = text ++ String.join (texts.map (separator ++ ·)) := by
  induction texts generalizing text with
  | nil => simp
  | cons next texts ih =>
    rw [String.intercalate_cons_cons, ih, List.map_cons, String.join_cons, String.append_assoc, String.append_assoc]

/-- **A statement is its clauses joined by commas**, between the opening and the closing parenthesis. -/
theorem createTable_eq_join (name : String) (clauses : List Clause) :
    createTable name clauses =
      "CREATE TABLE IF NOT EXISTS " ++ plainIdentifier name ++ " (" ++ ", ".intercalate (clauses.map Clause.sql) ++
        ");" := by
  rw [CreateTable.createTable_eq_ofCalls, CreateTable.finish_ofCalls]

/-- The same as a list of characters, read from the left. -/
theorem toList_createTable (name : String) (clauses : List Clause) :
    (createTable name clauses).toList =
      "CREATE TABLE IF NOT EXISTS ".toList ++ ((plainIdentifier name).toList ++ (" (".toList ++
        ([',', ' '].intercalate (clauses.map (·.sql.toList)) ++ [')', ';']))) := by
  have hc : ", ".toList = [',', ' '] := rfl
  have he : ");".toList = [')', ';'] := rfl
  rw [createTable_eq_join, String.toList_append, String.toList_append, String.toList_append, String.toList_append,
    String.toList_intercalate, List.map_map, hc, he]
  simp only [List.append_assoc]
  rfl

end CatalogDdl.Sql
