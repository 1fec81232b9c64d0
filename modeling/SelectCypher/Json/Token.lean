namespace SelectCypher.Json

/-!
# JSON tokens

A JSON text is a row of brackets, separators and scalar values with white space
between them.  Values are written as rows of tokens and read from rows of
tokens; two more tokens stand for what a text can hold but no value is written
as.
-/

/-- A piece of JSON text. -/
inductive Token
  | openObject
  | closeObject
  | openArray
  | closeArray
  | comma
  | colon
  | null
  | bool (value : Bool)
  | number (text : String)
  | string (content : String)
  /-- A string whose escapes stand for half a character; it can only be skipped. -/
  | brokenString
  /-- The place from which on a text is not JSON. -/
  | unreadable
  deriving Repr, DecidableEq

/-- The short escape of a character in a string, if it has one. -/
def shortEscape? : Char → Option Char
  | '"' => some '"'
  | '\\' => some '\\'
  | '\x08' => some 'b'
  | '\x0c' => some 'f'
  | '\n' => some 'n'
  | '\r' => some 'r'
  | '\t' => some 't'
  | _ => none

/-- A number below 65536 as four lower-case hexadecimal digits. -/
def fourDigits (code : Nat) : List Char :=
  [code / 4096 % 16, code / 256 % 16, code / 16 % 16, code % 16].map Nat.digitChar

/-- A character as it stands in a string. -/
def stringChar (character : Char) : List Char :=
  match shortEscape? character with
  | some letter =>
      ['\\', letter]
  | none =>
      if character.toNat < 0x20 then
        ['\\', 'u'] ++ fourDigits character.toNat
      else
        [character]

/-- The text of a string with a given content. -/
def stringText (content : String) : List Char :=
  ['"'] ++ content.toList.flatMap stringChar ++ ['"']

namespace Token

/-- The text of a token; the two tokens no value is written as have none. -/
def text : Token → List Char
  | openObject => ['{']
  | closeObject => ['}']
  | openArray => ['[']
  | closeArray => [']']
  | comma => [',']
  | colon => [':']
  | null => "null".toList
  | bool true => "true".toList
  | bool false => "false".toList
  | number digits => digits.toList
  | string content => stringText content
  | brokenString => []
  | unreadable => []

/-- Whether a token opens an object or an array. -/
def opens : Token → Bool
  | openObject | openArray => true
  | _ => false

/-- Whether a token closes an object or an array. -/
def closes : Token → Bool
  | closeObject | closeArray => true
  | _ => false

end Token

end SelectCypher.Json
