import SelectCypher.Proofs.Source.Position
import SelectCypher.Proofs.Token.Form
import SelectCypher.Proofs.Token.Stream

namespace SelectCypher

open Lexeme

/-!
# The tokens of two texts

A line feed ends whatever a text that is tokenized ends in: no token runs across it, a
line comment stops in front of it, and it is layout itself.  So a text behind a line
feed has the tokens it has alone, only further down.
-/

/-! ## Places further down -/

/-- A position behind more bytes and lines, in the same column. -/
def Position.shift
    (bytes lines : Nat)
    (position : Position) :
    Position where
  offset := position.offset + bytes
  line := position.line + lines
  column := position.column

/-- A token behind more bytes and lines. -/
def Token.shift
    (bytes lines : Nat)
    (token : Token) :
    Token :=
  { token with position := token.position.shift bytes lines }

/-- A lexical error behind more bytes and lines. -/
def LexicalError.shift
    (bytes lines : Nat)
    (error : LexicalError) :
    LexicalError :=
  { error with position := error.position.shift bytes lines }

/-- A token stream behind more bytes and lines. -/
def TokenStream.shift
    (bytes lines : Nat)
    (stream : TokenStream) :
    TokenStream where
  tokens := stream.tokens.map (Token.shift bytes lines)
  failure? := stream.failure?.map (LexicalError.shift bytes lines)

/-- A token stream behind some tokens. -/
def TokenStream.behind
    (tokens : List Token)
    (stream : TokenStream) :
    TokenStream :=
  { stream with tokens := tokens ++ stream.tokens }

variable {bytes lines : Nat}

theorem Position.advance_shift
    (position : Position)
    (character : Char) :
    (position.shift bytes lines).advance character =
      (position.advance character).shift bytes lines := by
  unfold advance
  by_cases feeds : character = '\n'
  · simp only [feeds, ↓reduceIte, shift, mk.injEq, and_true]
    omega
  · simp only [feeds, ↓reduceIte, shift, mk.injEq, and_true]
    omega

/-- Going on over a text commutes with a shift. -/
theorem Position.after_shift
    (position : Position)
    (text : List Char) :
    (position.shift bytes lines).after text =
      (position.after text).shift bytes lines := by
  induction text generalizing position with
  | nil =>
      rfl
  | cons character rest inductionHypothesis =>
      rw [after_cons, after_cons, advance_shift, inductionHypothesis]

/-- Behind a text and a line feed a new line begins. -/
theorem Position.after_lineFeed (text : List Char) :
    start.after (text ++ ['\n']) =
      start.shift (byteLength text + 1) (text.count '\n' + 1) := by
  apply (counts_after (text ++ ['\n'])).unique
  refine ⟨?_, ?_, ?_⟩
  · rw [byteLength_append]
    exact Nat.zero_add _
  · simp only [shift, start, List.count_append, List.count_singleton_self]
  · rw [lastLine_concat, if_pos rfl]
    rfl

namespace TokenStream

/-- A text that begins further down yields the same, further down. -/
theorem ofChars_shift
    (text : List Char)
    (position : Position) :
    ofChars (position.shift bytes lines) text =
      (ofChars position text).shift bytes lines := by
  induction text using munch_induction generalizing position with
  | found gap passed rest finding munches inductionHypothesis =>
      rw [ofChars_of_munches munches, ofChars_of_munches munches,
        Position.after_shift, Position.after_shift]
      cases finding with
      | finished =>
          rfl
      | token kind =>
          simp only [inductionHypothesis (by simp)]
          rfl
      | fault cause character =>
          rfl

/-- A stream that is complete behind some tokens, or fails as it does alone. -/
theorem complete_behind
    (tokens : List Token)
    (stream : TokenStream) :
    (stream.behind tokens).complete = stream.complete.map (tokens ++ ·) := by
  unfold complete behind
  cases stream.failure? <;> rfl

theorem complete_shift
    (stream : TokenStream) :
    (stream.shift bytes lines).complete =
      (stream.complete.map (List.map (Token.shift bytes lines))).mapError
        (LexicalError.shift bytes lines) := by
  unfold complete shift
  cases stream.failure? <;> rfl

end TokenStream

/-! ## What ends in front of a line feed -/

/-- A gap in front of the end of a text is one in front of a line feed there. -/
theorem Layout.Fills.lineFeed
    {gap rest : List Char}
    (fills : Fills gap rest)
    (more : List Char) :
    Fills gap (rest ++ '\n' :: more) := by
  induction fills with
  | nothing =>
      exact .nothing
  | space separates fills inductionHypothesis =>
      exact .space separates inductionHypothesis
  | @lineComment opener line gap rest opens inLine stops fills inductionHypothesis =>
      refine .lineComment opens inLine ?_ inductionHypothesis
      rw [← List.append_assoc]
      cases behind : gap ++ rest with
      | nil =>
          simp
      | cons first later =>
          simpa [behind] using stops
  | blockComment noCloser fills inductionHypothesis =>
      exact .blockComment noCloser inductionHypothesis

/-- A point without a fraction has none in front of a line feed either. -/
theorem Lexeme.fractionLength_lineFeed
    {text : List Char}
    (noFraction : fractionLength text = 0)
    (more : List Char) :
    fractionLength (text ++ '\n' :: more) = 0 := by
  unfold fractionLength
  split
  · rename_i rest shape
    rw [if_pos]
    rw [digitsLength_eq_zero_iff]
    cases text with
    | nil =>
        cases shape
    | cons first later =>
        simp only [List.cons_append, List.cons.injEq] at shape
        obtain ⟨rfl, rfl⟩ := shape
        have noDigit : digitsLength later = 0 := by
          rw [fractionLength] at noFraction
          split at noFraction
          · assumption
          · cases noFraction
        rw [digitsLength_eq_zero_iff] at noDigit
        cases later with
        | nil =>
            rintro next ⟨⟩
            decide
        | cons digit further =>
            exact noDigit
  · rfl

/-- A token in front of the end of a text ends in front of a line feed there. -/
theorem Lexeme.EndsBefore.lineFeed
    {kind : TokenKind}
    {spelled rest : List Char}
    (ends : EndsBefore kind spelled rest)
    (more : List Char) :
    EndsBefore kind spelled (rest ++ '\n' :: more) := by
  cases rest with
  | nil =>
      apply endsBefore_of_head?
      rintro next ⟨⟩
      decide
  | cons first later =>
      unfold EndsBefore at ends ⊢
      split at ends
      case h_4 =>
        -- A number alone looks further than at the next character.
        exact ⟨ends.1, fun isWhole => fractionLength_lineFeed (ends.2 isWhole) more⟩
      all_goals
        exact ends

/-- A longest gap behind other layout is the longest one together with it. -/
theorem Layout.LongestGap.behindGap
    {front gap rest : List Char}
    (longest : LongestGap gap rest)
    (fills : Fills front (gap ++ rest)) :
    LongestGap (front ++ gap) rest := by
  obtain ⟨whole, behind, shape, wholeLongest, measured⟩ :=
    exists_longestGap (front ++ (gap ++ rest))
  have further :
      lead (front ++ (gap ++ rest)) = .clear (front.length + gap.length) ∨
        lead (front ++ (gap ++ rest)) = .openComment (front.length + gap.length) := by
    rw [lead_append fills]
    by_cases unclosed : UnclosedComment rest
    · rw [longest.lead_eq_openComment unclosed]
      exact .inr rfl
    · rw [longest.lead_eq_clear unclosed]
      exact .inl rfl
  have sameLength : (front ++ gap).length = whole.length := by
    rw [List.length_append]
    rcases measured with ⟨clear, -⟩ | ⟨isOpen, -⟩
    · simpa [clear, eq_comm] using further
    · simpa [isOpen, eq_comm] using further
  rw [← List.append_assoc] at shape
  obtain ⟨rfl, rfl⟩ := List.append_inj shape sameLength
  exact wholeLongest

/-- What is found in a text is found in it behind more layout. -/
theorem Munches.behindGap
    {front gap passed rest : List Char}
    {finding : Finding}
    (munches : Munches gap passed rest finding)
    (fills : Layout.Fills front (gap ++ (passed ++ rest))) :
    Munches (front ++ gap) passed rest finding := by
  cases munches with
  | openComment longest unclosed =>
      rw [List.append_nil] at fills
      exact .openComment (longest.behindGap fills) unclosed
  | finished longest =>
      exact .finished (longest.behindGap fills)
  | openString longest unclosed =>
      rw [List.append_nil] at fills
      exact .openString (longest.behindGap fills) unclosed
  | token longest closedString longestToken =>
      exact .token (longest.behindGap fills) closedString longestToken
  | stray longest closed closedString noToken =>
      exact .stray (longest.behindGap fills) closed closedString noToken

/-- Layout at the front of a text only moves what the text yields. -/
theorem TokenStream.ofChars_of_fills
    {gap rest : List Char}
    (fills : Layout.Fills gap rest)
    (position : Position) :
    ofChars position (gap ++ rest) = ofChars (position.after gap) rest := by
  obtain ⟨inner, passed, behind, finding, rfl, munches⟩ := exists_munches rest
  rw [← List.append_assoc, ofChars_of_munches (munches.behindGap fills),
    ofChars_of_munches munches, List.append_assoc, Position.after_append,
    Position.after_append]
  cases finding <;> rfl

/-! ## The tokens of both texts -/

/--
Behind a text without lexical errors and a line feed, a text yields what it does where
it begins.
-/
theorem Splits.ofChars_lineFeed
    {position : Position}
    {text : List Char}
    {tokens : List Token}
    (splits : Splits position text tokens)
    (more : List Char) :
    TokenStream.ofChars position (text ++ '\n' :: more) =
      (TokenStream.ofChars (position.after (text ++ ['\n'])) more).behind
        tokens.dropLast := by
  induction splits with
  | @finished position text layout =>
      -- The end of input of the text gives way: what is left of it is layout.
      have atEnd : Layout.Fills text [] :=
        Layout.fills_of_lead (by simpa using layout)
      have fills : Layout.Fills text ('\n' :: more) :=
        atEnd.lineFeed more
      have feeds : Layout.Fills ['\n'] more :=
        .space (by decide) .nothing
      rw [TokenStream.ofChars_of_fills fills, ← List.singleton_append,
        TokenStream.ofChars_of_fills feeds, ← Position.after_append]
      rfl
  | @token position gap spelled rest kind tokens layout spells ends splits
      inductionHypothesis =>
      obtain ⟨⟨first, later, spelledShape, opens⟩, -⟩ := spells.ends
      have fills := (Layout.fills_of_lead layout).lineFeed more
      have measured :
          Layout.lead (gap ++ (spelled ++ (rest ++ '\n' :: more))) =
            .clear gap.length := by
        rw [List.append_assoc] at fills
        apply Layout.lead_of_fills fills
        simpa [spelledShape] using opens
      have shape :
          gap ++ (spelled ++ rest) ++ '\n' :: more =
            gap ++ (spelled ++ (rest ++ '\n' :: more)) := by
        simp only [List.append_assoc]
      have someTokens : tokens ≠ [] := by
        rintro rfl
        cases splits
      rw [shape, TokenStream.ofChars_of_spells measured spells (ends.lineFeed more),
        inductionHypothesis, List.dropLast_cons_of_ne_nil someTokens,
        ← Position.after_append]
      simp only [List.append_assoc]
      rfl

/-- How two texts with a line feed between them are tokenized, if the first one has tokens. -/
structure JoinsAtLineFeed
    (first second : String)
    (tokens : List Token) :
    Prop where
  /-- The first text loses its end of input, and the second one is moved as a whole. -/
  joins :
    ∃ body position,
      tokens = body ++ [.endAt position] ∧
        (∀ token ∈ body, token.kind ≠ .endOfInput) ∧
        tokenize (first ++ "\n" ++ second) =
          match tokenize second with
          | .ok others =>
              .ok
                (body ++
                  others.map
                    (Token.shift (byteLength first.toList + 1)
                      (first.toList.count '\n' + 1)))
          | .error failure =>
              .error
                (failure.shift (byteLength first.toList + 1)
                  (first.toList.count '\n' + 1))
  /-- No line and no column in the whole text outgrows 32 bits. -/
  fits :
    ∀ position : Position,
      position.Marks (first ++ "\n" ++ second).toList →
      position.line < UInt32.size ∧ position.column < UInt32.size

/--
Behind a text that is tokenized and a line feed, another text has the tokens or the
error that it has alone, further down by the bytes and the lines in front of it.
-/
theorem tokenize_append_lineFeed
    {first second : String}
    {tokens : List Token}
    (short : first.toList.length + second.toList.length < UInt32.size - 2)
    (tokenized : tokenize first = .ok tokens) :
    JoinsAtLineFeed first second tokens := by
  have splits := tokenize_eq_ok_iff.mp tokenized
  have joined :
      (first ++ "\n" ++ second).toList = first.toList ++ '\n' :: second.toList := by
    simp
  constructor
  case joins =>
    obtain ⟨body, rfl, someText⟩ := splits.exists_body
    refine ⟨body, _, rfl, fun token member => (someText token member).1, ?_⟩
    rw [tokenize, TokenStream.ofText_eq, joined, splits.ofChars_lineFeed,
      Position.after_lineFeed, TokenStream.ofChars_shift, List.dropLast_concat,
      TokenStream.complete_behind, TokenStream.complete_shift,
      ← TokenStream.ofText_eq, ← tokenize]
    cases tokenize second <;> rfl
  case fits =>
    intro position marks
    apply marks.lt_size
    rw [joined, List.length_append, List.length_cons]
    omega

/-- An operator does not go on behind a line feed, and characters are not bytes. -/
theorem tokenize_append_lineFeed_operator :
    let first := "'é' <"
    let second := "=1"
    let lessThan : List Token :=
      [{ kind := .stringLiteral
         text := "'é'"
         position := { offset := 0, line := 1, column := 1 } },
       { kind := .operator .less
         text := "<"
         position := { offset := 5, line := 1, column := 5 } },
       .endAt { offset := 6, line := 1, column := 6 }]
    first.toList.length + second.toList.length < UInt32.size - 2 ∧
      tokenize first = .ok lessThan ∧ JoinsAtLineFeed first second lessThan := by
  intro first second lessThan
  have short :
      first.toList.length + second.toList.length < UInt32.size - 2 := by
    decide +kernel
  have tokenized : tokenize first = .ok lessThan := by
    decide +kernel
  exact ⟨short, tokenized, tokenize_append_lineFeed short tokenized⟩

/-- What follows a line feed may fail, and does so further down. -/
example :
    tokenize ("n--" ++ "\n" ++ ".5") =
      .error
        { cause := .unexpectedCharacter
          character := '.'
          position := { offset := 4, line := 2, column := 1 } } := by
  decide +kernel

end SelectCypher
