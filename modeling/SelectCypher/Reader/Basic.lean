import SelectCypher.Query.Error
import SelectCypher.Token.Stream

namespace SelectCypher

/-!
# Reading a token stream

A reader looks at one token at a time.  Passing a token fetches the next one at
once, so a lexical error right behind a token is reported before anything is
made of that token.  Every step that passes a token brings the end nearer; the
type `Parsed` keeps that fact with the value that was read.
-/

/-- One token under view, the tokens behind it, and the parentheses now open. -/
structure Reader where
  current : Token
  upcoming : List Token
  /-- The lexical error that follows the upcoming tokens. -/
  failure? : Option LexicalError
  depth : Nat
  maxDepth : Nat
  deriving Repr, DecidableEq

namespace Reader

/-- Number of tokens that can still be passed. -/
def pending (reader : Reader) : Nat :=
  reader.upcoming.length + if reader.current.kind = .endOfInput then 0 else 1

/-- A value, and a reader that has passed at least one token to get it. -/
structure Parsed
    (before : Reader)
    (α : Type) where
  value : α
  after : Reader
  progress : after.pending < before.pending

/-- The same progress with another value. -/
def Parsed.map
    {before : Reader}
    {α β : Type}
    (change : α → β)
    (parsed : Parsed before α) :
    Parsed before β where
  value := change parsed.value
  after := parsed.after
  progress := parsed.progress

/-- A value read behind earlier progress, which makes the whole progress. -/
def Parsed.behind
    {origin before : Reader}
    {α : Type}
    (parsed : Parsed before α)
    (earlier : before.pending < origin.pending) :
    Parsed origin α where
  value := parsed.value
  after := parsed.after
  progress := Nat.lt_trans parsed.progress earlier

/-- A reader at the first token of a stream. -/
def start
    (stream : TokenStream)
    (maxDepth : Nat) :
    Except QueryError Reader :=
  match stream.tokens, stream.failure? with
  | token :: rest, failure? =>
      .ok
        { current := token
          upcoming := rest
          failure? := failure?
          depth := 0
          maxDepth := maxDepth }
  | [], some failure =>
      .error (.lexical failure)
  | [], none =>
      .ok
        { current := .endAt .start
          upcoming := []
          failure? := none
          depth := 0
          maxDepth := maxDepth }

/-- The error that the token under view is none of the expected kinds. -/
def unexpected
    (reader : Reader)
    (expected : List TokenKind) :
    QueryError :=
  .grammar (.ofToken expected reader.current)

/--
Pass the token under view.  Behind the last token of a stream without an error
the reader sees the end of input.
-/
def advance
    (reader : Reader)
    (notEnd : reader.current.kind ≠ .endOfInput) :
    Except QueryError (Parsed reader Token) :=
  match tokens : reader.upcoming with
  | token :: rest =>
      .ok
        { value := reader.current
          after := { reader with current := token, upcoming := rest }
          progress := by
            simp only [pending, tokens, notEnd, List.length_cons, ↓reduceIte]
            split <;> omega }
  | [] =>
      match reader.failure? with
      | some failure =>
          .error (.lexical failure)
      | none =>
          .ok
            { value := reader.current
              after :=
                { reader with current := .endAt reader.current.position }
              progress := by
                simp [pending, tokens, notEnd, Token.endAt] }

/-- Pass a token of one kind, or fail with the kinds expected at this place. -/
def expect
    (reader : Reader)
    (kind : TokenKind)
    (expected : List TokenKind)
    (notEnd : kind ≠ .endOfInput := by decide) :
    Except QueryError (Parsed reader Token) :=
  if seen : reader.current.kind = kind then
    reader.advance (by rw [seen]; exact notEnd)
  else
    .error (reader.unexpected expected)

end Reader

end SelectCypher
