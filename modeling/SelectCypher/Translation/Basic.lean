import SelectCypher.Cypher.Text
import SelectCypher.Reader.Query
import SelectCypher.Text.Blank
import SelectCypher.Translation.Unsupported

namespace SelectCypher

/-!
# Translating a query

The white space around a query is dropped first.  What is left is screened for
its length and for words of unsupported statements, then read and written as
Cypher; positions in errors refer to the text without that white space.
-/

/-- Why a text is not translated. -/
inductive TranslationError
  | empty
  | unsupportedStatement (keyword : String)
  | query (cause : QueryError)
  deriving Repr, DecidableEq

namespace TranslationError

/-- What is wrong. -/
def message : TranslationError → String
  | empty =>
      "Query is empty"
  | unsupportedStatement keyword =>
      "Unsupported statement keyword: " ++ keyword
  | query cause =>
      cause.message

end TranslationError

/-- The length in characters that a query to translate may have by default. -/
def translationMaxLength : Nat :=
  5000

/-- The limits for translation unless others are asked for. -/
def translationLimits : Limits where
  maxLength? := some translationMaxLength

/-- Refuse a text that is empty, too long or holds an unsupported word. -/
def screen
    (text : String)
    (limits : Limits := translationLimits) :
    Except TranslationError Unit := do
  let query := Text.trim text
  if query.isEmpty then
    throw .empty
  (limits.checkText query).mapError .query
  match findUnsupported? query.toList with
  | some word =>
      throw (.unsupportedStatement word)
  | none =>
      return ()

/-- A query, without the white space around it, and its Cypher text. -/
structure Translation where
  query : String
  cypher : String
  deriving Repr, DecidableEq

/-- Screen, read and translate a text. -/
def translate
    (text : String)
    (limits : Limits := translationLimits) :
    Except TranslationError Translation := do
  let query := Text.trim text
  screen query limits
  let read ← (Query.ofText query limits).mapError .query
  return { query := query, cypher := read.cypher }

end SelectCypher
