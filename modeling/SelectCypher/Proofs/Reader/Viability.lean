import SelectCypher.Proofs.Reader.Query

namespace SelectCypher.Grammar

/-!
# What may begin a sentence

A row of tokens can be completed to a sentence exactly if its kinds lead
somewhere.  From every place some kinds lead to the closing one, and a row of
tokens that leads there is read without error, hence a sentence.
-/

namespace Place

/-- Kinds that close so many parentheses and the query. -/
def closers (depth : Nat) : List TokenKind :=
  .replicate depth .rightParen ++ [.endOfInput]

/-- A shortest row of kinds that completes a query from a place on. -/
def ending : Place → List TokenKind
  | opening =>
      [.keyword .selectWord, .asterisk, .keyword .fromWord, .identifier,
        .endOfInput]
  | selection =>
      [.asterisk, .keyword .fromWord, .identifier, .endOfInput]
  | behindEverything | behindName =>
      [.keyword .fromWord, .identifier, .endOfInput]
  | name =>
      [.identifier, .keyword .fromWord, .identifier, .endOfInput]
  | source =>
      [.identifier, .endOfInput]
  | behindTable =>
      [.endOfInput]
  | operand depth =>
      .identifier :: .operator .equal :: .number :: closers depth
  | operator depth =>
      .operator .equal :: .number :: closers depth
  | value depth =>
      .number :: closers depth
  | behindOperand depth =>
      closers depth
  | closing =>
      []

theorem path?_closers (depth : Nat) :
    (behindOperand depth).path? (closers depth) = some closing := by
  induction depth with
  | zero =>
      rfl
  | succ depth inductionHypothesis =>
      exact inductionHypothesis

/-- Every place can be led to the closing one. -/
theorem path?_ending (place : Place) :
    place.path? place.ending = some closing := by
  cases place with
  | operand depth | operator depth | value depth | behindOperand depth =>
      exact path?_closers depth
  | _ =>
      rfl

/-- The end of input leads to the closing place, and nothing else does. -/
theorem next?_closing_iff
    {place next : Place}
    {kind : TokenKind}
    (leads : place.next? kind = some next) :
    kind = .endOfInput ↔ next = closing := by
  have listed :
      ∀ exit ∈ place.exits, exit.1 = .endOfInput ↔ exit.2 = closing := by
    cases place with
    | behindOperand depth =>
        cases depth <;> simp [exits]
    | _ =>
        simp [exits, TokenKind.operators, TokenKind.literals]
  exact listed _ (mem_exits_of_next? leads)

/-- A row of tokens that leads to the closing place ends there with the input. -/
theorem closed_of_path?
    {tokens : List Token}
    (path : opening.path? (tokens.map Token.kind) = some closing) :
    TokenStream.Closed { tokens := tokens, failure? := none } where
  ends := by
    intro _
    rcases List.eq_nil_or_concat tokens with rfl | ⟨body, last, rfl⟩
    · simp at path
    · rw [List.concat_eq_append, List.map_append, path?_append,
        Option.bind_eq_some_iff] at path
      obtain ⟨place, -, leads⟩ := path
      have final : place.next? last.kind = some closing := by
        simpa using leads
      exact ⟨body, last, List.concat_eq_append,
        (next?_closing_iff final).mpr rfl⟩
  nothingBehindEnd := by
    intro before last behind shape isEnd
    refine ⟨?_, rfl⟩
    rw [show tokens = before ++ last :: behind from shape, List.map_append,
      path?_append, Option.bind_eq_some_iff] at path
    obtain ⟨place, -, path⟩ := path
    rw [List.map_cons, path?_cons, Option.bind_eq_some_iff] at path
    obtain ⟨next, leads, path⟩ := path
    obtain rfl := (next?_closing_iff leads).mp isEnd
    -- The closing place has no exits.
    cases behind with
    | nil =>
        rfl
    | cons token rest =>
        rw [List.map_cons, path?_cons] at path
        simp [next?, exits] at path

end Place

/-- The sentences are exactly the rows that lead to the closing place. -/
theorem sentence_iff_path?
    {tokens : List Token} :
    (∃ query, Sentence tokens query) ↔
      Place.opening.path? (tokens.map Token.kind) = some .closing := by
  constructor
  · rintro ⟨query, sentence⟩
    exact sentence.path?_eq
  · intro path
    have closed := Place.closed_of_path? path
    have walked :
        Place.opening.walk (tokens.countP (·.kind = .leftParen)) tokens =
          .ok .closing :=
      Place.walk_eq_ok_iff.mpr ⟨path, nestedWithin_of_countP_le (Nat.le_refl _)⟩
    cases reading :
        Query.ofStream { tokens := tokens, failure? := none }
          (tokens.countP (·.kind = .leftParen)) with
    | ok query =>
        exact ⟨query, (Query.sentence_of_ofStream closed reading).1⟩
    | error failure =>
        have verdict := Query.verdict_of_ofStream closed reading
        simp [Place.verdict, walked, Except.bind] at verdict

/-- What may begin a sentence is what leads somewhere. -/
theorem viable_iff_path?
    {tokens : List Token} :
    Viable tokens ↔
      ∃ place, Place.opening.path? (tokens.map Token.kind) = some place := by
  constructor
  · intro viable
    exact viable.path?_isSome
  · rintro ⟨place, reached⟩
    let continuation : List Token :=
      place.ending.map fun kind => { kind := kind, text := "", position := .start }
    have kinds : continuation.map Token.kind = place.ending := by
      simp [continuation, Function.comp_def]
    refine ⟨continuation, sentence_iff_path?.mpr ?_⟩
    rw [List.map_append, Place.path?_append, reached, kinds]
    exact place.path?_ending

/-- The kinds expected at a place are those with which a sentence can go on. -/
theorem mem_expected_iff_viable
    {before : List Token}
    {token : Token}
    {place : Place}
    (reached : Place.opening.path? (before.map Token.kind) = some place) :
    token.kind ∈ place.expected ↔ Viable (before ++ [token]) := by
  rw [viable_iff_path?, Place.mem_expected, Option.isSome_iff_exists,
    List.map_append, Place.path?_append, reached]
  simp

end SelectCypher.Grammar
