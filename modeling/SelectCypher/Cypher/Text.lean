import SelectCypher.Cypher.Label
import SelectCypher.Query.Canonical

namespace SelectCypher

/-!
# Cypher text of a query

A table becomes a node pattern, a filter a `WHERE` line and a selection a
`RETURN` line.  Every joined condition stands in parentheses.  Inside a string a
backslash goes before each backslash and each quote.
-/

namespace Cypher

/-- The content of a string with a backslash before backslashes and quotes. -/
def escaped (content : List Char) : List Char :=
  content.flatMap fun character =>
    if character = '\\' ∨ character = '\'' then
      ['\\', character]
    else
      [character]

/-- A property of the matched node. -/
def property (column : Identifier) : String :=
  "n." ++ column.text

end Cypher

/-- A value in Cypher. -/
def Literal.cypher : Literal → String
  | .string content =>
      "'" ++ String.ofList (Cypher.escaped content.toList) ++ "'"
  | .number digits =>
      digits
  | .bool true =>
      "true"
  | .bool false =>
      "false"
  | .null =>
      "null"

/-- A condition in Cypher. -/
def Condition.cypher : Condition → String
  | .comparison column operator value =>
      Cypher.property column ++ " " ++ operator.symbol ++ " " ++ value.cypher
  | .join connective left right =>
      "(" ++ left.cypher ++ " " ++ connective.word ++ " " ++ right.cypher ++ ")"

/-- What a Cypher query returns. -/
def Selection.cypher : Selection → String
  | .everything =>
      "n"
  | .columns names =>
      String.intercalate ", " (names.map Cypher.property)

/-- The `WHERE` line of a Cypher query, empty without a filter. -/
def Cypher.whereLine : Option Condition → String
  | none =>
      ""
  | some condition =>
      "\nWHERE " ++ condition.cypher

/-- A query in Cypher. -/
def Query.cypher (query : Query) : String :=
  "MATCH (n:" ++ Cypher.label query.table.text ++ ")" ++
    Cypher.whereLine query.filter? ++
    "\nRETURN " ++ query.selection.cypher

/-- Cypher text under construction. -/
structure CypherDraft where
  text : String := ""
  deriving Repr, DecidableEq

namespace CypherDraft

/-- A draft with a value written behind it. -/
def writeLiteral
    (draft : CypherDraft)
    (value : Literal) :
    CypherDraft where
  text := draft.text ++ value.cypher

/-- A draft with a condition written behind it. -/
def writeCondition
    (draft : CypherDraft)
    (condition : Condition) :
    CypherDraft where
  text := draft.text ++ condition.cypher

/-- A draft with a query written behind it. -/
def writeQuery
    (draft : CypherDraft)
    (query : Query) :
    CypherDraft where
  text := draft.text ++ query.cypher

end CypherDraft

end SelectCypher
