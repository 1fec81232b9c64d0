namespace SelectCypher

/-!
# Places in a text

A position counts the bytes before it and, for readers, lines and columns from
one.  Columns count characters, and only a line feed starts a new line.  A span
is a pair of byte offsets.
-/

/-- Number of bytes in the UTF-8 form of a text. -/
def byteLength (text : List Char) : Nat :=
  text.foldl (fun bytes character => bytes + character.utf8Size) 0

theorem foldl_utf8Size
    (text : List Char)
    (bytes : Nat) :
    text.foldl (fun count character => count + character.utf8Size) bytes =
      bytes + byteLength text := by
  induction text generalizing bytes with
  | nil =>
      rfl
  | cons character rest inductionHypothesis =>
      rw [byteLength, List.foldl_cons, List.foldl_cons, inductionHypothesis,
        inductionHypothesis (0 + character.utf8Size), Nat.zero_add,
        Nat.add_assoc]

@[simp] theorem byteLength_nil : byteLength [] = 0 :=
  rfl

@[simp] theorem byteLength_cons
    (character : Char)
    (rest : List Char) :
    byteLength (character :: rest) =
      character.utf8Size + byteLength rest := by
  rw [byteLength, List.foldl_cons, foldl_utf8Size, Nat.zero_add]

theorem byteLength_append
    (first second : List Char) :
    byteLength (first ++ second) = byteLength first + byteLength second := by
  rw [byteLength, List.foldl_append, foldl_utf8Size]
  rfl

/-- A place in a text: bytes before it, and its line and column from one. -/
structure Position where
  offset : Nat
  line : Nat
  column : Nat
  deriving Repr, DecidableEq

namespace Position

/-- The position of the first character of any text. -/
def start : Position where
  offset := 0
  line := 1
  column := 1

/-- The position behind one character. -/
def advance
    (position : Position)
    (character : Char) :
    Position :=
  if character = '\n' then
    { offset := position.offset + character.utf8Size
      line := position.line + 1
      column := 1 }
  else
    { offset := position.offset + character.utf8Size
      line := position.line
      column := position.column + 1 }

/-- The position behind a whole text. -/
def after
    (position : Position)
    (text : List Char) :
    Position :=
  text.foldl advance position

/-- A position followed by the position behind each character of a text. -/
def trail
    (position : Position) :
    List Char →
      List Position
  | [] =>
      [position]
  | character :: rest =>
      position :: (position.advance character).trail rest

/-- Positions are ordered by offset, then by line, then by column. -/
def order
    (first second : Position) :
    Ordering :=
  ((compare first.offset second.offset).then
    (compare first.line second.line)).then
      (compare first.column second.column)

/-- The form shown to readers, `line:column`. -/
def render (position : Position) : String :=
  position.line.repr ++ ":" ++ position.column.repr

@[simp] theorem after_nil
    (position : Position) :
    position.after [] = position :=
  rfl

@[simp] theorem after_cons
    (position : Position)
    (character : Char)
    (rest : List Char) :
    position.after (character :: rest) =
      (position.advance character).after rest :=
  rfl

theorem after_append
    (position : Position)
    (first second : List Char) :
    position.after (first ++ second) =
      (position.after first).after second := by
  simp [after]

end Position

/-- The bytes from `start` up to, and without, `stop`. -/
structure Span where
  start : Nat
  stop : Nat
  deriving Repr, DecidableEq

end SelectCypher
