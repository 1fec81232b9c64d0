import SelectCypher.Proofs.Query.Reading
import SelectCypher.Proofs.Reader.Calls

namespace SelectCypher

open Grammar

/-!
# What a limit on nesting changes

A limit on nesting turns a result into the error that a parenthesis is nested too
deep, or changes nothing.  The parenthesis is the first one that as many others as
the limit are open in front of, on the way to where the text fails anyway.
-/

namespace Grammar.Place

/-- What is no fault of nesting under one limit is the same under a larger one. -/
theorem step_of_le
    {limit larger : Nat}
    {place : Place}
    {token : Token}
    (noLess : limit ≤ larger)
    (notTooDeep :
      ∀ position, place.step limit token ≠ .error (.tooDeep position limit)) :
    place.step larger token = place.step limit token := by
  cases stepped : place.step limit token with
  | ok next =>
      obtain ⟨leads, within⟩ := step_eq_ok_iff.mp stepped
      apply step_eq_ok_iff.mpr
      exact ⟨leads, fun isOpening => Nat.lt_of_lt_of_le (within isOpening) noLess⟩
  | error failure =>
      rcases step_eq_error stepped with ⟨blocked, cause⟩ | ⟨-, -, -, cause⟩
      · rw [cause, step, blocked]
      · rw [cause] at stepped
        exact absurd stepped (notTooDeep token.position)

theorem walk_of_le
    {limit larger : Nat}
    {place : Place}
    {tokens : List Token}
    (noLess : limit ≤ larger)
    (notTooDeep :
      ∀ position, place.walk limit tokens ≠ .error (.tooDeep position limit)) :
    place.walk larger tokens = place.walk limit tokens := by
  induction tokens generalizing place with
  | nil =>
      rfl
  | cons token rest inductionHypothesis =>
      rw [walk_cons] at notTooDeep
      have sameStep : place.step larger token = place.step limit token := by
        apply step_of_le noLess
        intro position fails
        exact notTooDeep position (by rw [fails]; rfl)
      rw [walk_cons, walk_cons, sameStep]
      cases stepped : place.step limit token with
      | error failure =>
          rfl
      | ok next =>
          rw [stepped] at notTooDeep
          exact inductionHypothesis notTooDeep

/-- With more room than there are parentheses none of them is nested too deep. -/
theorem walk_ne_tooDeep
    {roomy : Nat}
    {tokens : List Token}
    {position : Position}
    {limit : Nat}
    (plenty : openings tokens < roomy) :
    opening.walk roomy tokens ≠ .error (.tooDeep position limit) := by
  intro fails
  obtain ⟨before, token, behind, middle, rfl, walked, stepFails⟩ := walk_eq_error fails
  rcases step_eq_error stepFails with ⟨-, cause⟩ | ⟨-, isOpening, deep, -⟩
  · cases cause
  · rw [depth_of_path? (path?_of_walk walked)] at deep
    simp only [openings, List.countP_append, List.countP_cons] at plenty
    unfold unclosed at deep
    omega

end Grammar.Place

/-- A text has no fewer parentheses than its tokens. -/
theorem TokenStream.openings_ofChars_le
    (position : Position)
    (text : List Char) :
    openings (ofChars position text).tokens ≤ text.count '(' := by
  rcases ofChars_cases position text with
    ⟨failure, fails⟩ | layout | ⟨gap, spelled, rest, kind, shape, layout, spells, ends⟩
  · simp [fails, openings]
  · simp [ofChars_of_layout layout, openings, Token.endAt]
  · have shorter := spells.length_lt shape
    have further :=
      openings_ofChars_le (position.after (gap ++ spelled)) rest
    rw [shape, ofChars_of_spells layout spells ends]
    simp only [openings] at further
    simp only [TokenStream.cons, openings, List.countP_cons, List.count_append]
    by_cases isOpening : kind = .leftParen
    · subst isOpening
      rw [spells.eq_of_leftParen] at further ⊢
      simp only [decide_true, ↓reduceIte, List.count_singleton_self]
      omega
    · simp only [isOpening, decide_false, Bool.false_eq_true, ↓reduceIte]
      omega
termination_by text.length
decreasing_by exact shorter

namespace Query

/--
The tokens that stand in front of where reading a row of tokens has come to its
result: in front of the one that is misplaced, or all of them.
-/
inductive Before
    (limit : Nat)
    (tokens : List Token) :
    Except QueryError Query → List Token → Prop
  | read {query : Query} :
      Before limit tokens (.ok query) tokens
  | lexical {error : LexicalError} :
      Before limit tokens (.error (.lexical error)) tokens
  | misplaced
      {error : SyntaxError}
      {before : List Token}
      {token : Token} :
      Misplaced limit tokens error before token →
      Before limit tokens (.error (.grammar error)) before

/-- An opening parenthesis in its place with as many others open as the limit. -/
structure Exceeds
    (limit : Nat)
    (tokens before : List Token)
    (opening : Token) :
    Prop where
  next : ∃ behind, tokens = before ++ opening :: behind
  isOpening : opening.kind = .leftParen
  viable : Viable (before ++ [opening])
  exceeds : unclosed before = limit

/-- The first of the parentheses in their places that exceed the limit. -/
structure FirstExceeds
    (limit : Nat)
    (tokens before : List Token)
    (opening : Token) :
    Prop
    extends Exceeds limit tokens before opening where
  first :
    ∀ front other,
      Exceeds limit tokens front other → before.length ≤ front.length

/-- Along a path nothing exceeds a limit that it is nested within. -/
theorem Exceeds.not_nestedWithin
    {limit : Nat}
    {tokens before : List Token}
    {opening : Token}
    (exceeds : Exceeds limit tokens before opening) :
    ¬ NestedWithin limit tokens := by
  intro within
  obtain ⟨behind, shape⟩ := exceeds.next
  have small := within before opening behind shape exceeds.isOpening
  rw [exceeds.exceeds] at small
  exact Nat.lt_irrefl _ small

/-- The first parenthesis nested too deep is the first that exceeds the limit. -/
theorem FirstExceeds.of_firstTooDeep
    {limit : Nat}
    {tokens before behind : List Token}
    {opening : Token}
    (shape : tokens = before ++ opening :: behind)
    (viable : Viable (before ++ [opening]))
    (tooDeep : FirstTooDeep limit before opening) :
    FirstExceeds limit tokens before opening where
  next := ⟨behind, shape⟩
  isOpening := tooDeep.isOpening
  viable := viable
  exceeds := tooDeep.exceeds
  first := by
    intro front other exceeds
    obtain ⟨rest, otherShape⟩ := exceeds.next
    rw [shape] at otherShape
    rcases Text.append_eq_append_cons otherShape with
      ⟨between, beforeShape, -⟩ | ⟨between, frontShape, -⟩
    · -- The other one would stand in what is nested within the limit.
      have small := tooDeep.within front other between beforeShape exceeds.isOpening
      rw [exceeds.exceeds] at small
      exact absurd small (Nat.lt_irrefl _)
    · simp [frontShape]

/-- A walk along a path fails at the first parenthesis that exceeds the limit. -/
theorem exists_firstExceeds
    {limit : Nat}
    {passed : List Token}
    {place : Place}
    {failure : QueryError}
    (path : Place.opening.path? (passed.map Token.kind) = some place)
    (walked : Place.opening.walk limit passed = .error failure) :
    ∃ before opening,
      FirstExceeds limit passed before opening ∧
        failure = .tooDeep opening.position limit := by
  obtain ⟨before, opening, behind, rfl, tooDeep, rfl⟩ :=
    Place.firstTooDeep_of_walk_eq_error path walked
  have whole : Viable (before ++ [opening] ++ behind) := by
    rw [List.append_assoc, List.singleton_append]
    exact viable_iff_path?.mpr ⟨place, path⟩
  exact ⟨before, opening, .of_firstTooDeep rfl whole.of_append tooDeep, rfl⟩

/-- Readings under two limits agree where the walks along the tokens do. -/
theorem ofText_eq_of_walk
    {text : String}
    {limit other : Nat}
    (same :
      Place.opening.walk other (TokenStream.ofText text).tokens =
        Place.opening.walk limit (TokenStream.ofText text).tokens) :
    Query.ofText text { maxDepth := other } =
      Query.ofText text { maxDepth := limit } := by
  cases reading : Query.ofText text { maxDepth := limit } with
  | error failure =>
      rw [ofText_eq_error_iff] at reading ⊢
      rw [same]
      exact reading
  | ok query =>
      obtain ⟨fits, tokens, tokenized, sentence, within⟩ := ofText_eq_ok_iff.mp reading
      obtain ⟨-, rfl⟩ := tokenize_eq_ok_iff_stream.mp tokenized
      rw [sentence.walk_eq_ok_iff.mpr within] at same
      exact ofText_eq_ok_iff.mpr
        ⟨rfl, _, tokenized, sentence, sentence.walk_eq_ok_iff.mp same⟩

/-- A misplaced token stands at a place where its kind leads nowhere. -/
theorem Misplaced.blocked_at
    {limit : Nat}
    {tokens before : List Token}
    {error : SyntaxError}
    {token : Token}
    (misplaced : Misplaced limit tokens error before token) :
    ∃ place,
      Place.opening.walk limit before = .ok place ∧
        place.next? token.kind = none := by
  obtain ⟨place, walked⟩ :=
    Place.exists_walk_iff.mpr ⟨misplaced.viable, misplaced.within⟩
  refine ⟨place, walked, Place.next?_eq_none_iff.mpr ?_⟩
  intro listed
  have reached := Place.path?_of_walk walked
  exact misplaced.blocked ((mem_expected_iff_viable reached).mp listed)

/--
With room for every parenthesis the tokens in front of the result lead to a place
from which the others go on alike under every limit.
-/
theorem exists_before
    {text : String}
    {roomy : Nat}
    (plenty : text.toList.count '(' < roomy) :
    ∃ passed rest place,
      Before roomy (TokenStream.ofText text).tokens
          (Query.ofText text { maxDepth := roomy }) passed ∧
        (TokenStream.ofText text).tokens = passed ++ rest ∧
        Place.opening.walk roomy passed = .ok place ∧
        ∀ limit, place.walk limit rest = place.walk roomy rest := by
  cases reading : Query.ofText text { maxDepth := roomy } with
  | ok query =>
      obtain ⟨-, tokens, tokenized, sentence, within⟩ := ofText_eq_ok_iff.mp reading
      obtain ⟨-, rfl⟩ := tokenize_eq_ok_iff_stream.mp tokenized
      exact ⟨_, [], .closing, .read, by simp, sentence.walk_eq_ok_iff.mpr within,
        fun _ => rfl⟩
  | error failure =>
      rcases ofText_eq_error_iff.mp reading with
        fails | ⟨reached, lexical, walked, -, rfl⟩
      · obtain ⟨_, _, _, _, -, -, stepFails⟩ := Place.walk_eq_error fails
        rcases Place.step_eq_error stepFails with ⟨-, rfl⟩ | ⟨-, -, -, rfl⟩
        · obtain ⟨before, blocked, misplaced⟩ := exists_misplaced fails
          obtain ⟨behind, shape⟩ := misplaced.next
          obtain ⟨place, walked, leadsNowhere⟩ := misplaced.blocked_at
          refine ⟨before, blocked :: behind, place, .misplaced misplaced, shape, walked,
            ?_⟩
          intro limit
          simp [Place.walk_cons, Place.step, leadsNowhere, Except.bind]
        · have counted := TokenStream.openings_ofChars_le .start text.toList
          exact absurd fails (Place.walk_ne_tooDeep (Nat.lt_of_le_of_lt counted plenty))
      · exact ⟨_, [], reached, .lexical, by simp, walked, fun _ => rfl⟩

/--
What a limit on nesting makes of a text, compared with the result that it has with
room for every parenthesis.
-/
structure LimitsDepth
    (text : String)
    (roomy maxDepth : Nat) :
    Prop where
  /--
  If a parenthesis exceeds the limit in front of the other result, the first one that
  does is the error.  Otherwise the result is the same.
  -/
  decided :
    ∃ passed,
      Before roomy (TokenStream.ofText text).tokens
          (Query.ofText text { maxDepth := roomy }) passed ∧
        ((∃ before opening,
          FirstExceeds maxDepth passed before opening ∧
            Query.ofText text { maxDepth := maxDepth } =
              .error (.tooDeep opening.position maxDepth)) ∨
          (∀ before opening, ¬ Exceeds maxDepth passed before opening) ∧
            Query.ofText text { maxDepth := maxDepth } =
              Query.ofText text { maxDepth := roomy })
  /-- A larger limit changes no other result. -/
  unchanged :
    ∀ larger,
      maxDepth ≤ larger →
      (∀ position limit,
        Query.ofText text { maxDepth := maxDepth } ≠
          .error (.tooDeep position limit)) →
      Query.ofText text { maxDepth := larger } =
        Query.ofText text { maxDepth := maxDepth }
  /-- Wherever a condition is read the count of open parentheses is exact. -/
  counts :
    ∀ start call,
      Reader.start (.ofText text) maxDepth = .ok start →
      Reader.Visits start call →
      Reader.CountsOpen maxDepth (TokenStream.ofText text).tokens call.reader
  /-- Behind a group one less is counted again, as in front of it. -/
  countsBack :
    ∀ start reader behind,
      Reader.start (.ofText text) maxDepth = .ok start →
      Reader.Visits start (.atom reader) →
      Reader.ClosesGroup reader behind →
      behind.depth = reader.depth + 1

/--
The limit on nesting only ever turns a result into the error that a parenthesis is
nested too deep, at exactly the first parenthesis that is, and the reader that keeps
to it counts the open parentheses exactly.
-/
theorem ofText_limitsDepth
    {text : String}
    {roomy : Nat}
    (plenty : text.toList.count '(' < roomy)
    (maxDepth : Nat) :
    LimitsDepth text roomy maxDepth where
  decided := by
    obtain ⟨passed, rest, place, before, shape, roomyWalk, sameRest⟩ :=
      exists_before plenty
    have path := Place.path?_of_walk roomyWalk
    refine ⟨passed, before, ?_⟩
    cases walked : Place.opening.walk maxDepth passed with
    | error failure =>
        obtain ⟨front, opening, exceeds, rfl⟩ := exists_firstExceeds path walked
        refine .inl ⟨front, opening, exceeds, ?_⟩
        apply ofText_eq_error_iff.mpr
        rw [shape, Place.walk_append, walked]
        exact .inl rfl
    | ok reached =>
        have within := Place.nestedWithin_of_walk walked
        refine .inr ⟨fun front opening exceeds => exceeds.not_nestedWithin within, ?_⟩
        obtain rfl : place = reached := by
          have samePath := Place.path?_of_walk walked
          rw [path] at samePath
          exact Option.some.inj samePath
        apply ofText_eq_of_walk
        rw [shape, Place.walk_append, Place.walk_append, walked, roomyWalk]
        exact sameRest maxDepth
  unchanged := by
    intro larger noLess notTooDeep
    apply ofText_eq_of_walk
    apply Place.walk_of_le noLess
    intro position fails
    exact notTooDeep position maxDepth (ofText_eq_error_iff.mpr (.inl fails))
  counts := by
    intro start call starts visits
    have closed := TokenStream.ofText_closed text
    obtain ⟨sees, outside, rfl⟩ := Reader.start_sees closed starts
    rw [← sees] at closed ⊢
    exact (visits.reaches closed outside).countsOpen call.place_depth
  countsBack := by
    intro start reader behind starts visits closes
    have closed := TokenStream.ofText_closed text
    obtain ⟨sees, outside, -⟩ := Reader.start_sees closed starts
    rw [← sees] at closed
    exact (visits.reaches closed outside).depth_of_closesGroup closes

/-- A nested group behind another one, in a text that fails behind both. -/
theorem ofText_limitsDepth_nested :
    let text := "SELECT * FROM t WHERE (a = 1) AND ((b = 2) c"
    let unexpected : SyntaxError :=
      { expected := [.keyword .andWord, .keyword .orWord, .rightParen]
        found := .identifier
        foundText := "c"
        position := { offset := 43, line := 1, column := 44 } }
    text.toList.count '(' < 4 ∧
      Query.ofText text { maxDepth := 4 } = .error (.grammar unexpected) ∧
      Query.ofText text { maxDepth := 1 } =
        .error (.tooDeep { offset := 35, line := 1, column := 36 } 1) ∧
      LimitsDepth text 4 1 := by
  intro text unexpected
  have plenty : text.toList.count '(' < 4 := by decide
  refine ⟨plenty, ?_, ?_, ofText_limitsDepth plenty 1⟩
  · decide +kernel
  · decide +kernel

end Query

end SelectCypher
