namespace SelectCypher.Layout

/-!
# Layout between tokens

Spaces, tabs, line feeds, carriage returns and comments separate tokens and mean
nothing else.  A line comment opens with `--` or `//` and runs up to the next
line feed; a block comment opens with `/*` and runs to the first `*/` behind
its opener, without nesting.  `lead` measures the layout a text begins with.
-/

/-- The characters that separate tokens without opening a comment. -/
def isSpace (character : Char) : Bool :=
  character = ' ' || character = '\t' || character = '\n' || character = '\r'

/-- Number of characters before the next line feed or the end. -/
def lineLength (text : List Char) : Nat :=
  (text.takeWhile (· ≠ '\n')).length

/-- Number of characters up to the end of the first `*/`, added to those passed. -/
def closerEnd?
    (passed : Nat) :
    List Char →
      Option Nat
  | '*' :: '/' :: _ =>
      some (passed + 2)
  | _ :: rest =>
      closerEnd? (passed + 1) rest
  | [] =>
      none

/-- The layout a text begins with, measured in characters. -/
inductive Lead
  /-- Everything skipped is complete. -/
  | clear (length : Nat)
  /-- Behind the skipped characters stands a block comment without an end. -/
  | openComment (length : Nat)
  deriving Repr, DecidableEq

/-- The layout at the front of a text, behind a number of characters passed. -/
def leadFrom
    (passed : Nat)
    (text : List Char) :
    Lead :=
  match text with
  | '-' :: '-' :: rest =>
      leadFrom (passed + 2 + lineLength rest) (rest.drop (lineLength rest))
  | '/' :: '/' :: rest =>
      leadFrom (passed + 2 + lineLength rest) (rest.drop (lineLength rest))
  | '/' :: '*' :: rest =>
      match closerEnd? 0 rest with
      | some length =>
          leadFrom (passed + 2 + length) (rest.drop length)
      | none =>
          .openComment passed
  | character :: rest =>
      if isSpace character then
        leadFrom (passed + 1) rest
      else
        .clear passed
  | [] =>
      .clear passed
termination_by text.length
decreasing_by
  all_goals simp only [List.length_cons, List.length_drop]; omega

/-- The layout at the front of a text. -/
def lead (text : List Char) : Lead :=
  leadFrom 0 text

end SelectCypher.Layout
