import SelectCypher.Json.Token

namespace SelectCypher.Json

/-!
# Writing JSON

The compact form puts tokens side by side.  The indented form gives every member
and item a line of its own, two spaces further in for each bracket around it;
brackets with nothing between them stay together.
-/

/-- The compact text of some tokens. -/
def compact (tokens : List Token) : String :=
  String.ofList (tokens.flatMap Token.text)

/-- The start of a new line at a depth. -/
def newLine (depth : Nat) : List Char :=
  '\n' :: List.replicate (2 * depth) ' '

/-- What the indented form writes behind a token other than a bracket. -/
def spaceBehind
    (depth : Nat) :
    Token →
      List Char
  | .comma =>
      newLine depth
  | .colon =>
      [' ']
  | _ =>
      []

/--
The indented text of some tokens inside a number of brackets.  A line starts
behind an opening bracket, which is known by `fresh`, unless it is closed at
once.
-/
def indentedFrom
    (depth : Nat)
    (fresh : Bool) :
    List Token →
      List Char
  | [] =>
      []
  | token :: rest =>
      if token.closes then
        (if fresh then [] else newLine (depth - 1)) ++ token.text ++
          indentedFrom (depth - 1) false rest
      else
        (if fresh then newLine depth else []) ++ token.text ++
          if token.opens then
            indentedFrom (depth + 1) true rest
          else
            spaceBehind depth token ++ indentedFrom depth false rest

/-- The indented text of some tokens. -/
def indented (tokens : List Token) : String :=
  String.ofList (indentedFrom 0 false tokens)

/-- Rows of tokens with a comma between each two. -/
def separated : List (List Token) → List Token
  | [] =>
      []
  | [tokens] =>
      tokens
  | tokens :: rest =>
      tokens ++ .comma :: separated rest

/-- An array of items given as tokens. -/
def array (items : List (List Token)) : List Token :=
  .openArray :: separated items ++ [.closeArray]

/-- An object of members given by name and tokens. -/
def object (members : List (String × List Token)) : List Token :=
  .openObject ::
    separated (members.map fun (name, value) => .string name :: .colon :: value) ++
    [.closeObject]

/-- A value inside an object whose only member names its kind. -/
def tagged
    (tag : String)
    (value : List Token) :
    List Token :=
  object [(tag, value)]

end SelectCypher.Json
