import SelectCypher.Token.Layout
import SelectCypher.Token.Lexeme

namespace SelectCypher

/-!
# Scanning one token at a time

A scanner holds what is left of a text, the position it has reached, and whether
its run of tokens is over.  `nextToken` always scans from where the scanner
stands; `next?` stops for good after the end of input or the first error.
-/

/-- What is left of a text, where it begins, and whether the run of tokens is over. -/
structure Scanner where
  remaining : List Char
  position : Position
  exhausted : Bool
  deriving Repr, DecidableEq

namespace Scanner

/-- A scanner at the first of some characters. -/
def ofChars (text : List Char) : Scanner where
  remaining := text
  position := .start
  exhausted := false

/-- A scanner at the first character of a text. -/
def ofText (text : String) : Scanner :=
  ofChars text.toList

/-- A scanner that many characters further on. -/
def skip
    (scanner : Scanner)
    (count : Nat) :
    Scanner where
  remaining := scanner.remaining.drop count
  position := scanner.position.after (scanner.remaining.take count)
  exhausted := scanner.exhausted

/-- A scanner at the end of its text. -/
def skipAll (scanner : Scanner) : Scanner :=
  scanner.skip scanner.remaining.length

/-- The error of a given cause at the place where a scanner stands. -/
def fault
    (scanner : Scanner)
    (cause : LexicalCause)
    (character : Char) :
    LexicalError where
  cause := cause
  character := character
  position := scanner.position

/--
The token that begins exactly where a scanner stands, and the scanner behind it.
An unexpected character is passed; an unterminated string is passed to the end.
-/
def tokenHere (scanner : Scanner) : Except LexicalError Token × Scanner :=
  match Lexeme.front scanner.remaining with
  | .finished =>
      (.ok (.endAt scanner.position), scanner)
  | .token kind length =>
      (.ok
        { kind := kind
          text := String.ofList (scanner.remaining.take length)
          position := scanner.position },
        scanner.skip length)
  | .openString =>
      (.error (scanner.fault .unterminatedString '\''), scanner.skipAll)
  | .stray character =>
      (.error (scanner.fault .unexpectedCharacter character), scanner.skip 1)

/--
The next token behind any layout, and the scanner behind it.  A block comment
without an end is passed to the end of the text.
-/
def nextToken (scanner : Scanner) : Except LexicalError Token × Scanner :=
  match Layout.lead scanner.remaining with
  | .clear length =>
      (scanner.skip length).tokenHere
  | .openComment length =>
      let opener := scanner.skip length
      (.error (opener.fault .unterminatedComment '/'), opener.skipAll)

/-- The end of input and every error end a run of tokens. -/
def endsRun : Except LexicalError Token → Bool
  | .ok token =>
      token.isEnd
  | .error _ =>
      true

/-- The next element of a run of tokens, or `none` once the run is over. -/
def next?
    (scanner : Scanner) :
    Option (Except LexicalError Token × Scanner) :=
  if scanner.exhausted then
    none
  else
    let (result, behind) := scanner.nextToken
    some (result, { behind with exhausted := endsRun result })

/-- An upper bound for the number of elements a run still yields. -/
def pending (scanner : Scanner) : Nat :=
  if scanner.exhausted then 0 else scanner.remaining.length + 1

theorem skip_remaining_length
    (scanner : Scanner)
    (count : Nat) :
    (scanner.skip count).remaining.length =
      scanner.remaining.length - count := by
  simp [skip]

/-- A token other than the end of input uses up part of the text. -/
theorem tokenHere_shortens
    {scanner behind : Scanner}
    {token : Token}
    (scanned : scanner.tokenHere = (.ok token, behind))
    (notEnd : token.isEnd = false) :
    behind.remaining.length < scanner.remaining.length := by
  unfold tokenHere at scanned
  split at scanned
  · cases scanned
    simp [Token.isEnd, Token.endAt] at notEnd
  · rename_i kind length shape
    cases scanned
    obtain ⟨positive, nonempty⟩ := Lexeme.front_token_pos shape
    have someLeft := List.length_pos_iff.mpr nonempty
    rw [skip_remaining_length]
    omega
  · simp at scanned
  · simp at scanned

/-- The next token, unless it is the end of input, uses up part of the text. -/
theorem nextToken_shortens
    {scanner behind : Scanner}
    {token : Token}
    (scanned : scanner.nextToken = (.ok token, behind))
    (notEnd : token.isEnd = false) :
    behind.remaining.length < scanner.remaining.length := by
  unfold nextToken at scanned
  split at scanned
  · rename_i length shape
    have shorter := tokenHere_shortens scanned notEnd
    rw [skip_remaining_length] at shorter
    omega
  · simp at scanned

/-- Each token of a run brings its end nearer. -/
theorem next?_pending
    {scanner behind : Scanner}
    {token : Token}
    (scanned : scanner.next? = some (.ok token, behind)) :
    behind.pending < scanner.pending := by
  unfold next? at scanned
  split at scanned
  · simp at scanned
  · rename_i running
    cases result : scanner.nextToken with
    | mk outcome reached =>
        simp only [result, Option.some.injEq, Prod.mk.injEq] at scanned
        obtain ⟨rfl, rfl⟩ := scanned
        have before : scanner.pending = scanner.remaining.length + 1 := by
          simp [pending, running]
        rw [before]
        by_cases ending : token.isEnd = true
        · simp [pending, endsRun, ending]
        · have shorter :=
            nextToken_shortens result (by simpa using ending)
          simpa [pending, endsRun, ending] using shorter

end Scanner

end SelectCypher
