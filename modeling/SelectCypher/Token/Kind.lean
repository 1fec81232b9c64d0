import SelectCypher.Text.Ascii

namespace SelectCypher

/-!
# Kinds of tokens

A query is made of keywords, comparison operators, marks, names and literals.
Each kind has a tag, which names it in output, and a description, which names it
in messages.
-/

/-- The words that are never names. -/
inductive Keyword
  | selectWord
  | fromWord
  | whereWord
  | andWord
  | orWord
  | trueWord
  | falseWord
  | nullWord
  deriving Repr, DecidableEq

namespace Keyword

/-- Every keyword. -/
def all : List Keyword :=
  [.selectWord, .fromWord, .whereWord, .andWord, .orWord, .trueWord, .falseWord,
    .nullWord]

/-- The keyword as canonical text writes it. -/
def spelling : Keyword → String
  | .selectWord => "SELECT"
  | .fromWord => "FROM"
  | .whereWord => "WHERE"
  | .andWord => "AND"
  | .orWord => "OR"
  | .trueWord => "TRUE"
  | .falseWord => "FALSE"
  | .nullWord => "NULL"

/-- The name of the keyword in output. -/
def tag : Keyword → String
  | .selectWord => "Select"
  | .fromWord => "From"
  | .whereWord => "Where"
  | .andWord => "And"
  | .orWord => "Or"
  | .trueWord => "True"
  | .falseWord => "False"
  | .nullWord => "Null"

/-- The keyword a word spells, whatever the case of its letters. -/
def ofText? (word : String) : Option Keyword :=
  all.find? fun keyword => Text.sameIgnoringCase keyword.spelling word

end Keyword

/-- The ways to compare a column with a value. -/
inductive Operator
  | equal
  | notEqual
  | less
  | greater
  | lessOrEqual
  | greaterOrEqual
  deriving Repr, DecidableEq

namespace Operator

/-- Every comparison operator. -/
def all : List Operator :=
  [.equal, .notEqual, .less, .greater, .lessOrEqual, .greaterOrEqual]

/-- The operator as canonical text writes it. -/
def symbol : Operator → String
  | .equal => "="
  | .notEqual => "<>"
  | .less => "<"
  | .greater => ">"
  | .lessOrEqual => "<="
  | .greaterOrEqual => ">="

/-- The name of the operator in output. -/
def tag : Operator → String
  | .equal => "Eq"
  | .notEqual => "Neq"
  | .less => "Lt"
  | .greater => "Gt"
  | .lessOrEqual => "Lte"
  | .greaterOrEqual => "Gte"

/-- The operator with a given tag. -/
def ofTag? (tag : String) : Option Operator :=
  all.find? (·.tag == tag)

end Operator

/-- The words that join two conditions. -/
inductive Connective
  | and
  | or
  deriving Repr, DecidableEq

/-- What a token is. -/
inductive TokenKind
  | keyword (word : Keyword)
  | operator (comparison : Operator)
  | asterisk
  | comma
  | leftParen
  | rightParen
  | identifier
  | stringLiteral
  | number
  | endOfInput
  deriving Repr, DecidableEq

namespace TokenKind

/-- Every kind of token. -/
def all : List TokenKind :=
  Keyword.all.map keyword ++ Operator.all.map operator ++
    [asterisk, comma, leftParen, rightParen, identifier, stringLiteral, number,
      endOfInput]

/-- The name of the kind in output. -/
def tag : TokenKind → String
  | keyword word => word.tag
  | operator comparison => comparison.tag
  | asterisk => "Asterisk"
  | comma => "Comma"
  | leftParen => "LParen"
  | rightParen => "RParen"
  | identifier => "Identifier"
  | stringLiteral => "StringLiteral"
  | number => "Number"
  | endOfInput => "EndOfInput"

/-- The kind with a given tag. -/
def ofTag? (tag : String) : Option TokenKind :=
  all.find? (·.tag == tag)

/-- The name of the kind in messages: keywords bare, marks and operators quoted. -/
def describe : TokenKind → String
  | keyword word => word.spelling
  | operator comparison => "'" ++ comparison.symbol ++ "'"
  | asterisk => "'*'"
  | comma => "','"
  | leftParen => "'('"
  | rightParen => "')'"
  | identifier => "identifier"
  | stringLiteral => "string literal"
  | number => "number"
  | endOfInput => "end of input"

/-- The kinds that may stand as the value of a comparison. -/
def literals : List TokenKind :=
  [stringLiteral, number, keyword .trueWord, keyword .falseWord, keyword .nullWord]

/-- The kinds that compare. -/
def operators : List TokenKind :=
  Operator.all.map operator

/-- Whether the kind may stand as the value of a comparison. -/
def isLiteral (kind : TokenKind) : Bool :=
  literals.contains kind

/-- The operator of a kind that compares. -/
def operator? : TokenKind → Option Operator
  | operator comparison => some comparison
  | _ => none

/-- The connective of a kind that joins conditions. -/
def connective? : TokenKind → Option Connective
  | keyword .andWord => some .and
  | keyword .orWord => some .or
  | _ => none

/-- The kind of a word: a keyword in any letter case, or else a name. -/
def ofWord (word : String) : TokenKind :=
  match Keyword.ofText? word with
  | some found => .keyword found
  | none => .identifier

end TokenKind

end SelectCypher
