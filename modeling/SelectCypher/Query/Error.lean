import SelectCypher.Token.Basic

namespace SelectCypher

/-!
# Why a query is not read

A query fails at the first thing wrong in reading order: a lexical error, a
token the grammar has no place for, or a parenthesis nested too deep.  A length
limit is checked before all of these.
-/

/-- A token at a place where the grammar expects other kinds. -/
structure SyntaxError where
  expected : List TokenKind
  found : TokenKind
  foundText : String
  position : Position
  deriving Repr, DecidableEq

namespace SyntaxError

/-- The error of finding a token where other kinds are expected. -/
def ofToken
    (expected : List TokenKind)
    (token : Token) :
    SyntaxError where
  expected := expected
  found := token.kind
  foundText := token.text
  position := token.position

/-- Whether a kind is among the expected ones. -/
def expects
    (error : SyntaxError)
    (kind : TokenKind) :
    Bool :=
  error.expected.contains kind

/-- Names and literals are shown with their text, other tokens by kind alone. -/
def describeFound (error : SyntaxError) : String :=
  match error.found with
  | .identifier | .stringLiteral | .number =>
      error.found.describe ++ " " ++ error.foundText
  | _ =>
      error.found.describe

/-- Alternatives, separated by commas and, before the last one, by `or`. -/
def alternatives : List TokenKind → String
  | [] =>
      "nothing"
  | [kind] =>
      kind.describe
  | [first, last] =>
      first.describe ++ " or " ++ last.describe
  | first :: rest =>
      first.describe ++ ", " ++ alternatives rest

/-- What was found, where, and what was expected. -/
def message (error : SyntaxError) : String :=
  "Unexpected " ++ error.describeFound ++ " at " ++ error.position.render ++
    ": expected " ++ alternatives error.expected

end SyntaxError

/-- Why a query is not read. -/
inductive QueryError
  | lexical (error : LexicalError)
  | grammar (error : SyntaxError)
  /-- The parenthesis at `position` is nested deeper than `limit`. -/
  | tooDeep (position : Position) (limit : Nat)
  /-- The query has `length` characters, which is more than `limit`. -/
  | tooLong (length limit : Nat)
  deriving Repr, DecidableEq

namespace QueryError

/-- What is wrong. -/
def message : QueryError → String
  | lexical error =>
      error.message
  | grammar error =>
      error.message
  | tooDeep position limit =>
      "Condition nesting exceeds the limit of " ++ limit.repr ++ " at " ++
        position.render
  | tooLong length limit =>
      "Query is " ++ length.repr ++ " characters long, exceeding the limit of " ++
        limit.repr

/-- The place an error points at; a length has none. -/
def position? : QueryError → Option Position
  | lexical error =>
      some error.position
  | grammar error =>
      some error.position
  | tooDeep position _ =>
      some position
  | tooLong _ _ =>
      none

end QueryError

end SelectCypher
