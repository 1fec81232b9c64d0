import SelectCypher.Query.Basic
import SelectCypher.Text.Quoted

namespace SelectCypher

/-!
# Canonical text of a query

Keywords in capitals, one space between words, and only the parentheses that the
shape of a condition needs: `AND` binds tighter than `OR`, and both group to the
left, so a left operand is enclosed if it binds less tightly and a right operand
also if it binds equally.
-/

/-- A value as canonical text writes it. -/
def Literal.canonical : Literal → String
  | .string content => Text.quoted content
  | .number digits => digits
  | .bool true => "TRUE"
  | .bool false => "FALSE"
  | .null => "NULL"

/-- A connective as canonical text writes it. -/
def Connective.word : Connective → String
  | .and => "AND"
  | .or => "OR"

/-- A text between parentheses, if asked for. -/
def enclosedIf
    (needed : Bool)
    (text : String) :
    String :=
  if needed then "(" ++ text ++ ")" else text

/-- The canonical text of a condition. -/
def Condition.canonical : Condition → String
  | .comparison column operator value =>
      column.text ++ " " ++ operator.symbol ++ " " ++ value.canonical
  | .join connective left right =>
      enclosedIf (left.precedence < connective.precedence) left.canonical ++
        " " ++ connective.word ++ " " ++
        enclosedIf (right.precedence ≤ connective.precedence) right.canonical

/-- The canonical text of a selection. -/
def Selection.canonical : Selection → String
  | .everything => "*"
  | .columns names => String.intercalate ", " (names.map Identifier.text)

/-- The canonical text of a filter, empty if there is none. -/
def filterText : Option Condition → String
  | none => ""
  | some condition => " WHERE " ++ condition.canonical

/-- The canonical text of a query. -/
def Query.canonical (query : Query) : String :=
  "SELECT " ++ query.selection.canonical ++ " FROM " ++ query.table.text ++
    filterText query.filter?

/-! ## The characters of canonical text -/

theorem enclosedIf_true_toList (text : String) :
    (enclosedIf true text).toList = '(' :: text.toList ++ [')'] := by
  simp [enclosedIf]

theorem Condition.canonical_comparison_toList
    (column : Identifier)
    (operator : Operator)
    (value : Literal) :
    (Condition.comparison column operator value).canonical.toList =
      (column.text.toList ++ ' ' :: operator.symbol.toList) ++
        ' ' :: value.canonical.toList := by
  simp [canonical]

theorem Condition.canonical_join_toList
    (connective : Connective)
    (left right : Condition) :
    (Condition.join connective left right).canonical.toList =
      ((enclosedIf (left.precedence < connective.precedence) left.canonical).toList ++
          ' ' :: connective.word.toList) ++
        ' ' ::
          (enclosedIf (right.precedence ≤ connective.precedence)
            right.canonical).toList := by
  simp [canonical]

/-- One more name behind a list is written behind a comma. -/
theorem Selection.canonical_append_toList
    {names : List Identifier}
    (someNames : names ≠ [])
    (last : Identifier) :
    (Selection.columns (names ++ [last])).canonical.toList =
      (Selection.columns names).canonical.toList ++ ',' :: ' ' :: last.text.toList := by
  rw [canonical, List.map_append,
    String.intercalate_append_of_ne_nil (by simpa using someNames) (by simp),
    List.map_singleton, String.intercalate_singleton]
  simp only [String.toList_append, List.append_assoc]
  rfl

theorem filterText_some_toList (condition : Condition) :
    (filterText (some condition)).toList =
      ' ' :: ("WHERE".toList ++ ' ' :: condition.canonical.toList) := by
  simp [filterText]

theorem Query.canonical_toList (query : Query) :
    query.canonical.toList =
      ((("SELECT".toList ++ ' ' :: query.selection.canonical.toList) ++
            ' ' :: "FROM".toList) ++
          ' ' :: query.table.text.toList) ++
        (filterText query.filter?).toList := by
  simp [canonical]

end SelectCypher
