import SelectCypher.Proofs.Query.Reading
import SelectCypher.Proofs.Token.Respelling

namespace SelectCypher

open Grammar

/-!
# Layout, comments and spelling mean nothing

A text that is written again with other layout and other spelling of its tokens is
read as the same query, or fails for the same reason at the same one of its tokens.
-/

/-- Two results about rows of tokens, which differ at most in where an error stands. -/
inductive SameOutcome
    {α : Type}
    (tokens others : List Token) :
    Except QueryError α → Except QueryError α → Prop
  | read {value : α} :
      SameOutcome tokens others (.ok value) (.ok value)
  | grammar
      {expected : List TokenKind}
      {token other : Token} :
      (token, other) ∈ tokens.zip others →
      other.kind = token.kind →
      SameOutcome tokens others
        (.error (.grammar (.ofToken expected token)))
        (.error (.grammar (.ofToken expected other)))
  | tooDeep
      {limit : Nat}
      {token other : Token} :
      (token, other) ∈ tokens.zip others →
      SameOutcome tokens others
        (.error (.tooDeep token.position limit))
        (.error (.tooDeep other.position limit))

/-- The same outcome behind one more pair of tokens. -/
theorem SameOutcome.cons
    {α : Type}
    {token other : Token}
    {tokens others : List Token}
    {first second : Except QueryError α}
    (same : SameOutcome tokens others first second) :
    SameOutcome (token :: tokens) (other :: others) first second := by
  cases same with
  | read =>
      exact .read
  | grammar paired sameKind =>
      exact .grammar (List.mem_cons_of_mem _ paired) sameKind
  | tooDeep paired =>
      exact .tooDeep (List.mem_cons_of_mem _ paired)

/-- A walk looks at the kinds of tokens only. -/
theorem Grammar.Place.walk_sameOutcome
    {limit : Nat}
    {place : Place}
    {tokens others : List Token}
    (sameKinds : others.map Token.kind = tokens.map Token.kind) :
    SameOutcome tokens others (place.walk limit tokens) (place.walk limit others) := by
  induction tokens generalizing place others with
  | nil =>
      obtain rfl : others = [] := List.map_eq_nil_iff.mp sameKinds
      exact .read
  | cons token rest inductionHypothesis =>
      obtain ⟨other, behind, rfl, sameKind, sameRest⟩ := List.map_eq_cons_iff.mp sameKinds
      rw [walk_cons, walk_cons]
      cases stepped : place.step limit token with
      | ok next =>
          have otherStepped : place.step limit other = .ok next := by
            rw [step_eq_ok_iff] at stepped ⊢
            rwa [sameKind]
          rw [otherStepped]
          exact (inductionHypothesis sameRest).cons
      | error failure =>
          rcases step_eq_error stepped with
            ⟨blocked, rfl⟩ | ⟨leads, isOpening, deep, rfl⟩
          · have otherStepped :
                place.step limit other =
                  .error (.grammar (.ofToken place.expected other)) := by
              rw [step, sameKind, blocked]
            rw [otherStepped]
            exact .grammar (by simp) sameKind
          · obtain ⟨next, leads⟩ := Option.isSome_iff_exists.mp leads
            have otherStepped :
                place.step limit other = .error (.tooDeep other.position limit) := by
              rw [step, sameKind, leads]
              exact if_pos ⟨isOpening, deep⟩
            rw [otherStepped]
            exact .tooDeep (by simp)

namespace Query

/-- Without a lexical error a text fails on the way along its tokens. -/
theorem ofText_eq_error_iff_walk
    {text : String}
    {tokens : List Token}
    {maxDepth : Nat}
    {failure : QueryError}
    (tokenized : tokenize text = .ok tokens) :
    Query.ofText text { maxDepth := maxDepth } = .error failure ↔
      Place.opening.walk maxDepth tokens = .error failure := by
  obtain ⟨complete, rfl⟩ := tokenize_eq_ok_iff_stream.mp tokenized
  rw [ofText_eq_error_iff]
  simp [complete]

/-- Texts whose tokens mean the same have the same outcome. -/
theorem ofText_sameOutcome
    {text other : String}
    {tokens others : List Token}
    (tokenized : tokenize text = .ok tokens)
    (otherTokenized : tokenize other = .ok others)
    (sameMeaning : others.map Token.meaning = tokens.map Token.meaning)
    (maxDepth : Nat) :
    SameOutcome tokens others
      (Query.ofText text { maxDepth := maxDepth })
      (Query.ofText other { maxDepth := maxDepth }) := by
  have sameKinds := kinds_of_map Token.meaning_keepsMeaning sameMeaning
  cases reading : Query.ofText text { maxDepth := maxDepth } with
  | ok query =>
      obtain ⟨-, found, foundTokens, sentence, within⟩ := ofText_eq_ok_iff.mp reading
      obtain rfl : tokens = found := by
        rw [tokenized] at foundTokens
        exact Except.ok.inj foundTokens
      have otherSentence := sentence.of_map Token.meaning_keepsMeaning sameMeaning
      have otherReading : Query.ofText other { maxDepth := maxDepth } = .ok query :=
        ofText_eq_ok_iff.mpr
          ⟨rfl, others, otherTokenized, otherSentence, within.of_kinds sameKinds⟩
      rw [otherReading]
      exact .read
  | error failure =>
      have walked := (ofText_eq_error_iff_walk tokenized).mp reading
      have outcome :
          SameOutcome tokens others (Place.opening.walk maxDepth tokens)
            (Place.opening.walk maxDepth others) :=
        Place.walk_sameOutcome sameKinds
      rw [walked] at outcome
      generalize otherWalk : Place.opening.walk maxDepth others = result at outcome
      cases outcome with
      | grammar paired sameKind =>
          rw [(ofText_eq_error_iff_walk otherTokenized).mpr otherWalk]
          exact .grammar paired sameKind
      | tooDeep paired =>
          rw [(ofText_eq_error_iff_walk otherTokenized).mpr otherWalk]
          exact .tooDeep paired

/--
Layout, comments and the case of keywords are insignificant: a text written again has
the same tokens in their new spelling, and under every limit on nesting it is read as
the same query or fails for the same reason at the same token.
-/
theorem ofText_rewrites
    {text other : String}
    {body : List Token}
    {position : Position}
    {words : List Word}
    {trailing : List Char}
    (tokenized : tokenize text = .ok (body ++ [.endAt position]))
    (rewrites : Rewrites body words trailing)
    (shape : other.toList = Word.texts words ++ trailing) :
    ∃ others,
      tokenize other = .ok others ∧
        others.map Token.kind = body.map Token.kind ++ [.endOfInput] ∧
        others.map Token.text = words.map Word.text ++ [""] ∧
        ∀ maxDepth,
          SameOutcome (body ++ [.endAt position]) others
            (Query.ofText text { maxDepth := maxDepth })
            (Query.ofText other { maxDepth := maxDepth }) := by
  have splits := tokenize_eq_ok_iff.mp tokenized
  have formed : ∀ token ∈ body, token.kind.HasForm token.text := by
    intro token member
    exact splits.hasForm token (List.mem_append_left _ member)
  have notEnd : ∀ token ∈ body, token.kind ≠ .endOfInput := by
    obtain ⟨found, bodyShape, someText⟩ := splits.exists_body
    obtain ⟨rfl, -⟩ := List.append_inj' bodyShape rfl
    exact fun token member => (someText token member).1
  obtain ⟨others, otherSplits, texts, meanings⟩ :=
    rewrites.exists_splits formed notEnd .start
  rw [← shape] at otherSplits
  have otherTokenized := tokenize_eq_ok_iff.mpr otherSplits
  have sameMeaning :
      others.map Token.meaning = (body ++ [Token.endAt position]).map Token.meaning := by
    rw [meanings, List.map_append, List.map_append]
    rfl
  have sameKinds := kinds_of_map Token.meaning_keepsMeaning sameMeaning
  refine ⟨others, otherTokenized, ?_, texts,
    ofText_sameOutcome tokenized otherTokenized sameMeaning⟩
  rw [sameKinds, List.map_append]
  rfl

/-- Comments of all styles right behind tokens, the last of them without an end. -/
theorem ofText_rewrites_commented :
    let text := "select*!="
    let other := "\t--\nSELECT/**/*/***/<>//"
    let body : List Token :=
      [{ kind := .keyword .selectWord
         text := "select"
         position := { offset := 0, line := 1, column := 1 } },
       { kind := .asterisk
         text := "*"
         position := { offset := 6, line := 1, column := 7 } },
       { kind := .operator .notEqual
         text := "!="
         position := { offset := 7, line := 1, column := 8 } }]
    let position : Position := { offset := 9, line := 1, column := 10 }
    let words : List Word :=
      [{ gap := ['\t', '-', '-', '\n'], text := "SELECT" },
       { gap := ['/', '*', '*', '/'], text := "*" },
       { gap := ['/', '*', '*', '*', '/'], text := "<>" }]
    let trailing := ['/', '/']
    tokenize text = .ok (body ++ [.endAt position]) ∧
      Rewrites body words trailing ∧
      other.toList = Word.texts words ++ trailing ∧
      ∃ others,
        tokenize other = .ok others ∧
          others.map Token.kind = body.map Token.kind ++ [.endOfInput] ∧
          others.map Token.text = words.map Word.text ++ [""] ∧
          ∀ maxDepth,
            SameOutcome (body ++ [.endAt position]) others
              (Query.ofText text { maxDepth := maxDepth })
              (Query.ofText other { maxDepth := maxDepth }) := by
  intro text other body position words trailing
  have tokenized : tokenize text = .ok (body ++ [.endAt position]) := by
    decide +kernel
  have rewrites : Rewrites body words trailing := by
    refine ⟨?_, ?_, by simp [words], ?_⟩
    · simp only [body, words, Token.Respells, List.forall₂_cons, List.forall₂_nil_left_iff]
      decide
    · have line : Layout.Complete ('\t' :: (['-', '-'] ++ [] ++ ['\n'])) :=
        .space (by decide) (.lineComment (.inl rfl) (by simp) .nothing)
      have block : Layout.Complete ('/' :: '*' :: [] ++ ['*', '/']) :=
        .blockComment (by decide) .nothing
      have starred : Layout.Complete ('/' :: '*' :: ['*'] ++ ['*', '/']) :=
        .blockComment (by decide) .nothing
      simp only [words, List.forall_mem_cons]
      exact ⟨line, block, starred, by simp⟩
    · have openLine : Layout.Fills (['/', '/'] ++ [] ++ []) [] :=
        .lineComment (.inr rfl) (by simp) (by simp) .nothing
      exact openLine
  have shape : other.toList = Word.texts words ++ trailing := by
    decide
  exact ⟨tokenized, rewrites, shape, ofText_rewrites tokenized rewrites shape⟩

end Query

end SelectCypher
