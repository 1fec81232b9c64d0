import SelectCypher.Proofs.Reader.Course
import SelectCypher.Proofs.Token.Munch
import SelectCypher.Token.Stream

namespace SelectCypher

/-!
# How a text splits into tokens

A run of a scanner is unfolded token by token.  `Splits` describes a text without
lexical errors as gaps of layout and tokens between them, and a text splits into
exactly the tokens that its run yields.
-/

namespace Scanner

/-- A scanner at some position whose run goes on. -/
def running
    (position : Position)
    (text : List Char) :
    Scanner where
  remaining := text
  position := position
  exhausted := false

variable {scanner behind : Scanner}

theorem next?_of_running
    {outcome : Except LexicalError Token}
    (goesOn : scanner.exhausted = false)
    (scanned : scanner.nextToken = (outcome, behind)) :
    scanner.next? =
      some (outcome, { behind with exhausted := endsRun outcome }) := by
  simp [next?, goesOn, scanned]

theorem stream_of_exhausted
    (isOver : scanner.exhausted = true) :
    scanner.stream = { tokens := [], failure? := none } := by
  rw [stream, drain]
  split <;> simp_all [next?]

/-- A run that yields an error is over. -/
theorem stream_of_error
    {failure : LexicalError}
    (goesOn : scanner.exhausted = false)
    (scanned : scanner.nextToken = (.error failure, behind)) :
    scanner.stream = { tokens := [], failure? := some failure } := by
  have yields := next?_of_running goesOn scanned
  rw [stream, drain]
  split <;> simp_all

/-- A run that yields a token goes on behind it. -/
theorem stream_of_token
    {token : Token}
    (goesOn : scanner.exhausted = false)
    (scanned : scanner.nextToken = (.ok token, behind)) :
    scanner.stream =
      ({ behind with exhausted := token.isEnd } : Scanner).stream.cons token := by
  have yields := next?_of_running goesOn scanned
  rw [stream, drain]
  split
  · simp_all
  · simp_all
  · rename_i found reached scannedHere
    rw [yields] at scannedHere
    simp only [Option.some.injEq, Prod.mk.injEq, Except.ok.injEq] at scannedHere
    obtain ⟨rfl, rfl⟩ := scannedHere
    rfl

end Scanner

/-- The token stream of a text that begins at some position. -/
def TokenStream.ofChars
    (position : Position)
    (text : List Char) :
    TokenStream :=
  (Scanner.running position text).stream

namespace TokenStream

theorem ofText_eq (text : String) :
    ofText text = ofChars .start text.toList :=
  rfl

/-- What is found first in a text decides what the text yields. -/
theorem ofChars_of_munches
    {gap passed rest : List Char}
    {finding : Finding}
    (munches : Munches gap passed rest finding)
    (position : Position) :
    ofChars position (gap ++ (passed ++ rest)) =
      match finding with
      | .finished =>
          { tokens := [.endAt (position.after gap)], failure? := none }
      | .token kind =>
          (ofChars (position.after (gap ++ passed)) rest).cons
            { kind := kind
              text := String.ofList passed
              position := position.after gap }
      | .fault cause character =>
          { tokens := []
            failure? :=
              some
                { cause := cause
                  character := character
                  position := position.after gap } } := by
  have scanned :=
    @Munches.nextToken_eq (Scanner.running position _) _ _ _ _ munches rfl
  cases finding with
  | finished =>
      rw [ofChars, Scanner.stream_of_token rfl scanned, Scanner.stream_of_exhausted rfl]
      rfl
  | token kind =>
      have notEnd : kind ≠ .endOfInput := by
        cases munches with
        | token longest closedString longestToken =>
            exact longestToken.spells.ne_endOfInput
      rw [ofChars, Scanner.stream_of_token rfl scanned]
      simp only [Token.isEnd, beq_eq_false_iff_ne.mpr notEnd]
      rfl
  | fault cause character =>
      rw [ofChars, Scanner.stream_of_error rfl scanned]
      rfl

/-- A text of nothing but layout yields the end of input. -/
theorem ofChars_of_layout
    {position : Position}
    {text : List Char}
    (layout : Layout.lead text = .clear text.length) :
    ofChars position text =
      { tokens := [.endAt (position.after text)], failure? := none } := by
  have munches : Munches text [] [] .finished :=
    .finished (.of_lead (by simpa using layout))
  simpa using ofChars_of_munches munches position

/-- A text with a token behind layout yields it and goes on behind it. -/
theorem ofChars_of_spells
    {position : Position}
    {gap spelled rest : List Char}
    {kind : TokenKind}
    (layout : Layout.lead (gap ++ (spelled ++ rest)) = .clear gap.length)
    (spells : Lexeme.Spells kind spelled)
    (ends : Lexeme.EndsBefore kind spelled rest) :
    ofChars position (gap ++ (spelled ++ rest)) =
      (ofChars (position.after (gap ++ spelled)) rest).cons
        { kind := kind
          text := String.ofList spelled
          position := position.after gap } := by
  obtain ⟨closedString, longestToken⟩ :=
    Lexeme.front_eq_token_iff_longest.mp (Lexeme.front_of_spells spells ends)
  exact ofChars_of_munches (.token (.of_lead layout) closedString longestToken) position

/-- What a text yields first: an error, its end, or a token behind layout. -/
theorem ofChars_cases
    (position : Position)
    (text : List Char) :
    (∃ failure,
      ofChars position text = { tokens := [], failure? := some failure }) ∨
      Layout.lead text = .clear text.length ∨
      ∃ gap spelled rest kind,
        text = gap ++ (spelled ++ rest) ∧
          Layout.lead (gap ++ (spelled ++ rest)) = .clear gap.length ∧
          Lexeme.Spells kind spelled ∧ Lexeme.EndsBefore kind spelled rest := by
  obtain ⟨gap, passed, rest, finding, rfl, munches⟩ := exists_munches text
  cases finding with
  | finished =>
      cases munches with
      | finished longest =>
          have layout := longest.lead_eq_clear Layout.not_unclosedComment_nil
          exact .inr (.inl (by simpa using layout))
  | token kind =>
      cases munches with
      | token longest closedString longestToken =>
          have layout := longest.lead_eq_clear longestToken.not_unclosedComment
          exact .inr (.inr ⟨gap, passed, rest, kind, rfl, layout, longestToken.spells,
            longestToken.endsBefore closedString⟩)
  | fault cause character =>
      exact .inl ⟨_, ofChars_of_munches munches position⟩

theorem Closed.single
    {last : Token}
    (isEnd : last.kind = .endOfInput) :
    Closed { tokens := [last], failure? := none } where
  ends _ :=
    ⟨[], last, rfl, isEnd⟩
  nothingBehindEnd := by
    intro before final behind shape _
    cases before with
    | nil =>
        simp only [List.nil_append, List.cons.injEq] at shape
        exact ⟨shape.2.symm, rfl⟩
    | cons first later =>
        simp at shape

theorem Closed.failed (failure : LexicalError) :
    Closed { tokens := [], failure? := some failure } where
  ends := by
    simp
  nothingBehindEnd := by
    simp

/-- A token other than the end of input leaves a closed stream closed. -/
theorem Closed.cons
    {token : Token}
    {stream : TokenStream}
    (closed : stream.Closed)
    (notEnd : token.kind ≠ .endOfInput) :
    (stream.cons token).Closed where
  ends := by
    intro complete
    obtain ⟨body, last, shape, isEnd⟩ := closed.ends complete
    exact ⟨token :: body, last, by simp [TokenStream.cons, shape], isEnd⟩
  nothingBehindEnd := by
    intro before last behind shape isEnd
    cases before with
    | nil =>
        simp only [TokenStream.cons, List.nil_append, List.cons.injEq] at shape
        exact absurd (shape.1 ▸ isEnd) notEnd
    | cons first later =>
        simp only [TokenStream.cons, List.cons_append, List.cons.injEq] at shape
        exact closed.nothingBehindEnd shape.2 isEnd

theorem ofChars_closed
    (position : Position)
    (text : List Char) :
    (ofChars position text).Closed := by
  rcases ofChars_cases position text with
    ⟨failure, fails⟩ | layout | ⟨gap, spelled, rest, kind, shape, layout, spells, ends⟩
  · rw [fails]
    exact .failed failure
  · rw [ofChars_of_layout layout]
    exact .single rfl
  · have shorter := spells.length_lt shape
    rw [shape, ofChars_of_spells layout spells ends]
    exact (ofChars_closed _ rest).cons spells.ne_endOfInput
termination_by text.length
decreasing_by exact shorter

/-- The stream of a text is closed. -/
theorem ofText_closed (text : String) : (ofText text).Closed :=
  ofChars_closed .start text.toList

end TokenStream

/-- A text that consists of tokens, with layout before and behind each. -/
inductive Splits : Position → List Char → List Token → Prop
  | finished
      {position : Position}
      {text : List Char} :
      Layout.lead text = .clear text.length →
      Splits position text [.endAt (position.after text)]
  | token
      {position : Position}
      {gap spelled rest : List Char}
      {kind : TokenKind}
      {tokens : List Token} :
      Layout.lead (gap ++ (spelled ++ rest)) = .clear gap.length →
      Lexeme.Spells kind spelled →
      Lexeme.EndsBefore kind spelled rest →
      Splits (position.after (gap ++ spelled)) rest tokens →
      Splits position (gap ++ (spelled ++ rest))
        ({ kind := kind
           text := String.ofList spelled
           position := position.after gap } :: tokens)

namespace Splits

theorem ofChars_eq
    {position : Position}
    {text : List Char}
    {tokens : List Token}
    (splits : Splits position text tokens) :
    TokenStream.ofChars position text = { tokens := tokens, failure? := none } := by
  induction splits with
  | finished layout =>
      exact TokenStream.ofChars_of_layout layout
  | token layout spells ends splits inductionHypothesis =>
      rw [TokenStream.ofChars_of_spells layout spells ends, inductionHypothesis]
      rfl

theorem of_ofChars
    {position : Position}
    {text : List Char}
    (complete : (TokenStream.ofChars position text).failure? = none) :
    Splits position text (TokenStream.ofChars position text).tokens := by
  rcases TokenStream.ofChars_cases position text with
    ⟨failure, fails⟩ | layout | ⟨gap, spelled, rest, kind, shape, layout, spells, ends⟩
  · simp [fails] at complete
  · rw [TokenStream.ofChars_of_layout layout]
    exact .finished layout
  · have shorter := spells.length_lt shape
    rw [shape] at complete ⊢
    rw [TokenStream.ofChars_of_spells layout spells ends] at complete ⊢
    exact .token layout spells ends (of_ofChars complete)
termination_by text.length
decreasing_by exact shorter

/-- A token has the text and the position of the characters it stands for. -/
theorem locate
    {position : Position}
    {text : List Char}
    {tokens before behind : List Token}
    {token : Token}
    (splits : Splits position text tokens)
    (shape : tokens = before ++ token :: behind)
    (notEnd : token.kind ≠ .endOfInput) :
    ∃ front spelled rest,
      text = front ++ (spelled ++ rest) ∧ Lexeme.Spells token.kind spelled ∧
        token.text = String.ofList spelled ∧
        token.position = position.after front := by
  induction splits generalizing before with
  | finished layout =>
      cases before with
      | nil =>
          simp only [List.nil_append, List.cons.injEq] at shape
          rw [← shape.1] at notEnd
          exact absurd rfl notEnd
      | cons first more =>
          simp at shape
  | @token position gap spelled rest kind tokens layout spells ends splits
      inductionHypothesis =>
      cases before with
      | nil =>
          simp only [List.nil_append, List.cons.injEq] at shape
          obtain ⟨rfl, -⟩ := shape
          exact ⟨gap, spelled, rest, rfl, spells, rfl, rfl⟩
      | cons first more =>
          simp only [List.cons_append, List.cons.injEq] at shape
          obtain ⟨front, later, behind, rfl, laterSpells, same, place⟩ :=
            inductionHypothesis shape.2
          refine ⟨gap ++ spelled ++ front, later, behind, by simp, laterSpells, same,
            ?_⟩
          rw [place, ← Position.after_append]

end Splits

/-- A text is tokenized as the tokens it splits into. -/
theorem tokenize_eq_ok_iff
    {text : String}
    {tokens : List Token} :
    tokenize text = .ok tokens ↔ Splits .start text.toList tokens := by
  constructor
  · intro tokenized
    unfold tokenize TokenStream.complete at tokenized
    split at tokenized
    · rename_i complete
      cases tokenized
      exact Splits.of_ofChars complete
    · cases tokenized
  · intro splits
    rw [tokenize, TokenStream.ofText_eq, splits.ofChars_eq]
    rfl

end SelectCypher
