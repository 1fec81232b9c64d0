namespace SelectCypher.CommandLine

/-!
# The forms of an argument

`--` alone ends the options.  Two dashes and a name make a long option, to which
a value may be attached behind an equals sign; one dash and letters make a row
of short options.  Everything else, a single dash included, is plain.
-/

/-- An argument by its form. -/
inductive Argument
  | separator
  | long (name : String) (value? : Option String)
  | short (letters : List Char)
  | plain (text : String)
  deriving Repr, DecidableEq

namespace Argument

/-- The name of a long option and the value attached to it. -/
def splitLong (text : List Char) : Argument :=
  let name := String.ofList (text.takeWhile (· ≠ '='))
  match text.dropWhile (· ≠ '=') with
  | [] =>
      long name none
  | _ :: value =>
      long name (some (String.ofList value))

/-- The form of an argument. -/
def ofText (text : String) : Argument :=
  match text.toList with
  | ['-', '-'] =>
      separator
  | '-' :: '-' :: rest =>
      splitLong rest
  | '-' :: letter :: rest =>
      short (letter :: rest)
  | _ =>
      plain text

/-- The text of an argument that can be the value of the option before it. -/
def value? : Argument → Option String
  | plain text => some text
  | _ => none

end Argument

end SelectCypher.CommandLine
