import SelectCypher.Source.Position
import SelectCypher.Text.Quoted
import SelectCypher.Text.QuotedChar
import SelectCypher.Token.Kind

namespace SelectCypher

/-!
# Tokens and lexical errors

A token carries its exact text, quotes included, and the position of its first
character.  A lexical error carries the character at which no token can be read,
or the character that opens what is never closed.
-/

/-- A piece of a query with its kind, its exact text and its place. -/
structure Token where
  kind : TokenKind
  text : String
  position : Position
  deriving Repr, DecidableEq

namespace Token

/-- The end-of-input token at a place. -/
def endAt (position : Position) : Token where
  kind := .endOfInput
  text := ""
  position := position

/-- The bytes a token covers. -/
def span (token : Token) : Span where
  start := token.position.offset
  stop := token.position.offset + byteLength token.text.toList

/-- Whether a token stands for the end of the input. -/
def isEnd (token : Token) : Bool :=
  token.kind == .endOfInput

/--
The content of a string literal, without its outer quotes and with pairs of
quotes joined; the text of any other token as it stands.
-/
def unquoted (token : Token) : String :=
  if token.kind = .stringLiteral ∧ 2 ≤ byteLength token.text.toList then
    String.ofList (Text.collapsed (Text.unwrapped token.text.toList))
  else
    token.text

end Token

/-- Why no token can be read. -/
inductive LexicalCause
  | unexpectedCharacter
  | unterminatedString
  | unterminatedComment
  deriving Repr, DecidableEq

namespace LexicalCause

/-- The name of the cause in output. -/
def tag : LexicalCause → String
  | unexpectedCharacter => "UnexpectedCharacter"
  | unterminatedString => "UnterminatedString"
  | unterminatedComment => "UnterminatedComment"

/-- Every cause. -/
def all : List LexicalCause :=
  [unexpectedCharacter, unterminatedString, unterminatedComment]

/-- The cause with a given tag. -/
def ofTag? (tag : String) : Option LexicalCause :=
  all.find? (·.tag == tag)

end LexicalCause

/-- A text that cannot be split into tokens from some place on. -/
structure LexicalError where
  cause : LexicalCause
  character : Char
  position : Position
  deriving Repr, DecidableEq

namespace LexicalError

/-- What is wrong, without the place. -/
def describe (error : LexicalError) : String :=
  match error.cause with
  | .unexpectedCharacter =>
      "Unexpected character " ++ Text.quotedChar error.character
  | .unterminatedString =>
      "Unterminated string literal"
  | .unterminatedComment =>
      "Unterminated block comment"

/-- What is wrong and where. -/
def message (error : LexicalError) : String :=
  error.describe ++ " at " ++ error.position.render

end LexicalError

end SelectCypher
