import SelectCypher.Text.Printable

namespace SelectCypher.Text

/-!
# A single character in a message

A message shows a character between single quotes.  The usual short escapes
stand for the null character, tab, line feed, carriage return, the quote and the
backslash; any other character that cannot be shown alone is written by its code
point in lower-case hexadecimal.
-/

/-- A character by its code point, as in `\u{301}`. -/
def codePointEscape (character : Char) : List Char :=
  ['\\', 'u', '{'] ++ Nat.toDigits 16 character.toNat ++ ['}']

/-- A character as it is shown inside a message. -/
def shownChar (character : Char) : List Char :=
  match character with
  | '\x00' =>
      ['\\', '0']
  | '\t' =>
      ['\\', 't']
  | '\n' =>
      ['\\', 'n']
  | '\r' =>
      ['\\', 'r']
  | '\'' =>
      ['\\', '\'']
  | '\\' =>
      ['\\', '\\']
  | _ =>
      if isShown character then
        [character]
      else
        codePointEscape character

/-- A character as it is shown inside a message, between single quotes. -/
def quotedChar (character : Char) : String :=
  String.ofList (['\''] ++ shownChar character ++ ['\''])

example : quotedChar '#' = "'#'" := by decide +kernel
example : quotedChar '\'' = "'\\''" := by decide +kernel
example : quotedChar 'é' = "'é'" := by decide +kernel
example : quotedChar '\u0301' = "'\\u\x7b301\x7d'" := by decide +kernel

end SelectCypher.Text
