import SelectCypher.Proofs.Reader.Completeness
import SelectCypher.Proofs.Reader.Viability
import SelectCypher.Proofs.Token.Stream

namespace SelectCypher

open Grammar

/-!
# What reading a text decides

A text is read as a query exactly if its tokens are a sentence nested within the
limit, and the query is the one the grammar gives.  A text that is not read fails
at the first thing wrong in reading order, and what its error expects is exactly
what could have come there.
-/

namespace Grammar

/-- A sentence is walked to the closing place if it is nested within the limit. -/
theorem Sentence.walk_eq_ok_iff
    {limit : Nat}
    {tokens : List Token}
    {query : Query}
    (sentence : Sentence tokens query) :
    Place.opening.walk limit tokens = .ok .closing ↔ NestedWithin limit tokens := by
  rw [Place.walk_eq_ok_iff]
  exact and_iff_right sentence.path?_eq

namespace Place

/-- The verdict on a stream without a lexical error is that on its tokens. -/
theorem verdict_of_complete
    {limit : Nat}
    {place : Place}
    {stream : TokenStream}
    (complete : stream.failure? = none) :
    place.verdict limit stream = place.walk limit stream.tokens := by
  rw [verdict, complete]
  cases place.walk limit stream.tokens <;> rfl

/-- A verdict is a failure on the way, or the lexical error behind all tokens. -/
theorem verdict_eq_error_iff
    {limit : Nat}
    {place : Place}
    {stream : TokenStream}
    {failure : QueryError} :
    place.verdict limit stream = .error failure ↔
      place.walk limit stream.tokens = .error failure ∨
        ∃ reached lexical,
          place.walk limit stream.tokens = .ok reached ∧
            stream.failure? = some lexical ∧ failure = .lexical lexical := by
  unfold verdict
  cases place.walk limit stream.tokens with
  | error cause =>
      simp [Except.bind]
  | ok reached =>
      cases stream.failure? <;> simp [Except.bind, eq_comm]

/-- The lexical error behind the tokens is no failure of a walk. -/
theorem walk_ne_lexical
    {limit : Nat}
    {place : Place}
    {tokens : List Token}
    {lexical : LexicalError} :
    place.walk limit tokens ≠ .error (.lexical lexical) := by
  intro fails
  obtain ⟨before, token, behind, middle, -, -, stepFails⟩ := walk_eq_error fails
  rcases step_eq_error stepFails with ⟨-, cause⟩ | ⟨-, -, -, cause⟩ <;> cases cause

/-- What is nested within a limit can be walked as far as it may begin a sentence. -/
theorem exists_walk_iff
    {limit : Nat}
    {tokens : List Token} :
    (∃ reached, opening.walk limit tokens = .ok reached) ↔
      Viable tokens ∧ NestedWithin limit tokens := by
  simp only [walk_eq_ok_iff, viable_iff_path?, exists_and_right]

end Place

end Grammar

namespace Query

/-- What is read from a closed stream is its sentence, if nested within the limit. -/
theorem ofStream_eq_ok_iff
    {stream : TokenStream}
    {maxDepth : Nat}
    {query : Query}
    (closed : stream.Closed) :
    Query.ofStream stream maxDepth = .ok query ↔
      stream.failure? = none ∧ Sentence stream.tokens query ∧
        NestedWithin maxDepth stream.tokens := by
  constructor
  · intro read
    obtain ⟨sentence, complete, verdict⟩ := sentence_of_ofStream closed read
    rw [Place.verdict_of_complete complete] at verdict
    exact ⟨complete, sentence, sentence.walk_eq_ok_iff.mp verdict⟩
  · rintro ⟨complete, sentence, within⟩
    have walked := sentence.walk_eq_ok_iff.mpr within
    cases reading : Query.ofStream stream maxDepth with
    | ok other =>
        obtain ⟨otherSentence, -, -⟩ := sentence_of_ofStream closed reading
        rw [otherSentence.unique sentence]
    | error failure =>
        have verdict := verdict_of_ofStream closed reading
        rw [Place.verdict_of_complete complete, walked] at verdict
        cases verdict

/-- A stream fails with the verdict on it, whatever that is. -/
theorem ofStream_eq_error_iff
    {stream : TokenStream}
    {maxDepth : Nat}
    {failure : QueryError}
    (closed : stream.Closed) :
    Query.ofStream stream maxDepth = .error failure ↔
      Place.opening.verdict maxDepth stream = .error failure := by
  constructor
  · exact verdict_of_ofStream closed
  · intro verdict
    cases reading : Query.ofStream stream maxDepth with
    | ok query =>
        obtain ⟨-, -, finished⟩ := sentence_of_ofStream closed reading
        rw [verdict] at finished
        cases finished
    | error cause =>
        have same := verdict_of_ofStream closed reading
        rw [verdict] at same
        cases same
        rfl

/-- The tokens of a text are those of its stream, if that has no error. -/
theorem tokenize_eq_ok_iff_stream
    {text : String}
    {tokens : List Token} :
    tokenize text = .ok tokens ↔
      (TokenStream.ofText text).failure? = none ∧
        (TokenStream.ofText text).tokens = tokens := by
  unfold tokenize TokenStream.complete
  cases (TokenStream.ofText text).failure? <;> simp

/-- A text is read within limits if it fits and its tokens are a nested sentence. -/
theorem ofText_eq_ok_iff
    {text : String}
    {limits : Limits}
    {query : Query} :
    Query.ofText text limits = .ok query ↔
      limits.checkText text = .ok () ∧
        ∃ tokens,
          tokenize text = .ok tokens ∧ Sentence tokens query ∧
            NestedWithin limits.maxDepth tokens := by
  have closed := TokenStream.ofText_closed text
  unfold Query.ofText
  cases limits.checkText text with
  | error failure =>
      simp [bind, Except.bind]
  | ok fits =>
      simp only [bind, Except.bind, true_and]
      rw [ofStream_eq_ok_iff closed]
      constructor
      · rintro ⟨complete, sentence, within⟩
        exact ⟨_, tokenize_eq_ok_iff_stream.mpr ⟨complete, rfl⟩, sentence, within⟩
      · rintro ⟨tokens, tokenized, sentence, within⟩
        rcases tokenize_eq_ok_iff_stream.mp tokenized with ⟨complete, rfl⟩
        exact ⟨complete, sentence, within⟩

/--
A text is read as a query exactly if its tokens derive the query in the grammar
and none of its parentheses is nested deeper than the limit.  No row of tokens
derives two queries.
-/
theorem ofText_eq_ok_iff_derives
    (text : String)
    (maxDepth : Nat) :
    (∀ query,
      Query.ofText text { maxDepth := maxDepth } = .ok query ↔
        ∃ tokens,
          tokenize text = .ok tokens ∧ Sentence tokens query ∧
            NestedWithin maxDepth tokens) ∧
      ∀ tokens query other,
        Sentence tokens query → Sentence tokens other → query = other := by
  constructor
  · intro query
    rw [ofText_eq_ok_iff]
    exact and_iff_right rfl
  · intro tokens query other
    exact Sentence.unique

/-! ## Errors -/

/--
A token that has no place where it stands, behind tokens that may begin a
sentence, and an error that names the token and every kind that could have come
in its place.
-/
structure Misplaced
    (maxDepth : Nat)
    (tokens : List Token)
    (error : SyntaxError)
    (before : List Token)
    (token : Token) :
    Prop where
  /-- The token is the next one behind the others. -/
  next : ∃ behind, tokens = before ++ token :: behind
  viable : Viable before
  within : NestedWithin maxDepth before
  blocked : ¬ Viable (before ++ [token])
  found : error.found = token.kind
  foundText : error.foundText = token.text
  position : error.position = token.position
  nodup : error.expected.Nodup
  exact : ∀ other : Token, other.kind ∈ error.expected ↔ Viable (before ++ [other])

/-- A walk fails for want of a place at a token that is misplaced. -/
theorem exists_misplaced
    {maxDepth : Nat}
    {tokens : List Token}
    {error : SyntaxError}
    (fails : Place.opening.walk maxDepth tokens = .error (.grammar error)) :
    ∃ before token, Misplaced maxDepth tokens error before token := by
  obtain ⟨before, token, behind, place, shape, walked, stepFails⟩ :=
    Place.walk_eq_error fails
  have reached := Place.path?_of_walk walked
  rcases Place.step_eq_error stepFails with ⟨blocked, cause⟩ | ⟨-, -, -, cause⟩
  · cases cause
    have exact :
        ∀ other : Token, other.kind ∈ place.expected ↔ Viable (before ++ [other]) :=
      fun other => mem_expected_iff_viable reached
    exact ⟨before, token,
      { next := ⟨behind, shape⟩
        viable := viable_iff_path?.mpr ⟨place, reached⟩
        within := Place.nestedWithin_of_walk walked
        blocked := fun viable =>
          Place.next?_eq_none_iff.mp blocked ((exact token).mpr viable)
        found := rfl
        foundText := rfl
        position := rfl
        nodup := place.expected_nodup
        exact := exact }⟩
  · cases cause

/--
Without a limit on its length a text fails on the way along its tokens, or with
the lexical error behind all of them.
-/
theorem ofText_eq_error_iff
    {text : String}
    {maxDepth : Nat}
    {failure : QueryError} :
    Query.ofText text { maxDepth := maxDepth } = .error failure ↔
      Place.opening.walk maxDepth (TokenStream.ofText text).tokens =
          .error failure ∨
        ∃ reached lexical,
          Place.opening.walk maxDepth (TokenStream.ofText text).tokens =
              .ok reached ∧
            (TokenStream.ofText text).failure? = some lexical ∧
            failure = .lexical lexical := by
  have sameStream :
      Query.ofText text { maxDepth := maxDepth } =
        Query.ofStream (.ofText text) maxDepth :=
    rfl
  rw [sameStream, ofStream_eq_error_iff (TokenStream.ofText_closed text),
    Place.verdict_eq_error_iff]

/--
Errors are the first failure in reading order.  A syntax error is at a token that
is misplaced, with the exact set of kinds that could stand there; a lexical error
is the first one of the text, behind tokens that may begin a sentence nested
within the limit, and whenever it stands there it is reported.
-/
theorem ofText_eq_error_first
    (text : String)
    (maxDepth : Nat) :
    (∀ error,
      Query.ofText text { maxDepth := maxDepth } = .error (.grammar error) →
        ∃ before token,
          Misplaced maxDepth (TokenStream.ofText text).tokens error before token) ∧
      (∀ error,
        Query.ofText text { maxDepth := maxDepth } = .error (.lexical error) →
          (TokenStream.ofText text).failure? = some error ∧
            Viable (TokenStream.ofText text).tokens ∧
            NestedWithin maxDepth (TokenStream.ofText text).tokens) ∧
      ∀ error,
        (TokenStream.ofText text).failure? = some error →
        Viable (TokenStream.ofText text).tokens →
        NestedWithin maxDepth (TokenStream.ofText text).tokens →
        Query.ofText text { maxDepth := maxDepth } = .error (.lexical error) := by
  refine ⟨?_, ?_, ?_⟩
  · intro error fails
    rcases ofText_eq_error_iff.mp fails with fails | ⟨_, _, _, _, cause⟩
    · exact exists_misplaced fails
    · cases cause
  · intro error fails
    rcases ofText_eq_error_iff.mp fails with
      fails | ⟨reached, lexical, walked, ends, cause⟩
    · exact absurd fails Place.walk_ne_lexical
    · cases cause
      exact ⟨ends, Place.exists_walk_iff.mp ⟨reached, walked⟩⟩
  · intro error ends viable within
    rcases Place.exists_walk_iff.mpr ⟨viable, within⟩ with ⟨reached, walked⟩
    exact ofText_eq_error_iff.mpr (.inr ⟨reached, error, walked, ends, rfl⟩)

end Query

end SelectCypher
