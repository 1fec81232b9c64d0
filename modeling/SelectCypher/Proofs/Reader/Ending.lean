import SelectCypher.Proofs.Reader.Condition
import SelectCypher.Reader.Query

namespace SelectCypher

open Grammar

/-!
# Nothing is read behind the end of input

A reader never passes the end of input.  So two streams that agree up to one are read
alike, whatever stands behind it in either of them, and whether or not they fail there.
-/

namespace Reader

/-- Two readers that have the same tokens before them up to some end of input. -/
structure AgreeToEnd
    (reader other : Reader) :
    Prop where
  tokens :
    ∃ shared last more others,
      last.kind = .endOfInput ∧ reader.tokens = shared ++ last :: more ∧
        other.tokens = shared ++ last :: others
  depth : other.depth = reader.depth
  maxDepth : other.maxDepth = reader.maxDepth

/-- The same error, or the same value and readers that still agree. -/
inductive SameResult
    {origin otherOrigin : Reader}
    {α : Type} :
    Except QueryError (Parsed origin α) →
      Except QueryError (Parsed otherOrigin α) →
      Prop
  | error (failure : QueryError) :
      SameResult (.error failure) (.error failure)
  | ok
      {parsed : Parsed origin α}
      {otherParsed : Parsed otherOrigin α} :
      otherParsed.value = parsed.value →
      parsed.after.AgreeToEnd otherParsed.after →
      SameResult (.ok parsed) (.ok otherParsed)

namespace AgreeToEnd

variable {reader other : Reader}

theorem current
    (agree : reader.AgreeToEnd other) :
    other.current = reader.current := by
  obtain ⟨shared, last, more, others, -, shape, otherShape⟩ := agree.tokens
  cases shared with
  | nil =>
      rw [(List.cons.inj shape).1, (List.cons.inj otherShape).1]
  | cons first later =>
      rw [(List.cons.inj shape).1, (List.cons.inj otherShape).1]

/-- In front of the end of input there is a next token, the same in both readers. -/
theorem upcoming
    (agree : reader.AgreeToEnd other)
    (notEnd : reader.current.kind ≠ .endOfInput) :
    ∃ next rest otherRest,
      reader.upcoming = next :: rest ∧ other.upcoming = next :: otherRest ∧
        AgreeToEnd { reader with current := next, upcoming := rest }
          { other with current := next, upcoming := otherRest } := by
  obtain ⟨shared, last, more, others, isEnd, shape, otherShape⟩ := agree.tokens
  -- The token under view is one of the shared ones, or else the end of input itself.
  cases shared with
  | nil =>
      rw [(List.cons.inj shape).1] at notEnd
      exact absurd isEnd notEnd
  | cons first later =>
      have upcoming : reader.upcoming = later ++ last :: more :=
        (List.cons.inj shape).2
      have otherUpcoming : other.upcoming = later ++ last :: others :=
        (List.cons.inj otherShape).2
      cases later with
      | nil =>
          exact ⟨last, more, others, upcoming, otherUpcoming,
            ⟨[], last, more, others, isEnd, rfl, rfl⟩, agree.depth, agree.maxDepth⟩
      | cons second further =>
          exact ⟨second, _, _, upcoming, otherUpcoming,
            ⟨second :: further, last, more, others, isEnd, rfl, rfl⟩, agree.depth,
            agree.maxDepth⟩

theorem withDepth
    (agree : reader.AgreeToEnd other)
    {depth otherDepth : Nat}
    (same : otherDepth = depth) :
    AgreeToEnd { reader with depth := depth } { other with depth := otherDepth } where
  tokens := agree.tokens
  depth := same
  maxDepth := agree.maxDepth

end AgreeToEnd

namespace SameResult

variable {origin otherOrigin later otherLater : Reader}
variable {α β : Type}

/-- Procedures with the same results have them one behind the other too. -/
theorem bind
    {first : Except QueryError (Parsed origin α)}
    {otherFirst : Except QueryError (Parsed otherOrigin α)}
    {second : Parsed origin α → Except QueryError (Parsed later β)}
    {otherSecond : Parsed otherOrigin α → Except QueryError (Parsed otherLater β)}
    (same : SameResult first otherFirst)
    (continues :
      ∀ parsed otherParsed,
        otherParsed.value = parsed.value →
        parsed.after.AgreeToEnd otherParsed.after →
        SameResult (second parsed) (otherSecond otherParsed)) :
    SameResult (first >>= second) (otherFirst >>= otherSecond) := by
  cases same with
  | error failure =>
      exact .error failure
  | ok sameValue agree =>
      exact continues _ _ sameValue agree

end SameResult

variable {reader other : Reader}

theorem unexpected_sameResult
    {origin otherOrigin : Reader}
    {α : Type}
    (agree : reader.AgreeToEnd other)
    (expected : List TokenKind) :
    SameResult
      (.error (reader.unexpected expected) : Except QueryError (Parsed origin α))
      (.error (other.unexpected expected) :
        Except QueryError (Parsed otherOrigin α)) := by
  rw [unexpected, unexpected, agree.current]
  exact .error _

theorem advance_sameResult
    {notEnd : reader.current.kind ≠ .endOfInput}
    {otherNotEnd : other.current.kind ≠ .endOfInput}
    (agree : reader.AgreeToEnd other) :
    SameResult (reader.advance notEnd) (other.advance otherNotEnd) := by
  obtain ⟨next, rest, otherRest, upcoming, otherUpcoming, agreeBehind⟩ :=
    agree.upcoming notEnd
  unfold advance
  split
  · rename_i token behind shape
    split
    · rename_i otherToken otherBehind otherShape
      rw [upcoming, List.cons.injEq] at shape
      rw [otherUpcoming, List.cons.injEq] at otherShape
      obtain ⟨rfl, rfl⟩ := shape
      obtain ⟨rfl, rfl⟩ := otherShape
      exact .ok agree.current agreeBehind
    · rename_i otherShape
      simp [otherUpcoming] at otherShape
  · rename_i shape
    simp [upcoming] at shape

theorem expect_sameResult
    {kind : TokenKind}
    {expected : List TokenKind}
    {notEnd : kind ≠ .endOfInput}
    (agree : reader.AgreeToEnd other) :
    SameResult (reader.expect kind expected notEnd)
      (other.expect kind expected notEnd) := by
  unfold expect
  by_cases seen : reader.current.kind = kind
  · rw [dif_pos seen, dif_pos (agree.current ▸ seen)]
    exact advance_sameResult agree
  · rw [dif_neg seen, dif_neg (agree.current ▸ seen)]
    exact unexpected_sameResult agree expected

theorem identifier_sameResult
    (agree : reader.AgreeToEnd other)
    (expected : List TokenKind) :
    SameResult (reader.identifier expected) (other.identifier expected) := by
  unfold identifier
  refine .bind (expect_sameResult agree) ?_
  intro name otherName same agreeBehind
  exact .ok (by simp only [Parsed.map, same]) agreeBehind

theorem operator_sameResult
    (agree : reader.AgreeToEnd other) :
    SameResult reader.operator other.operator := by
  unfold operator
  split
  · rename_i none
    split
    · exact unexpected_sameResult agree _
    · rename_i otherComparison otherCompares
      simp [agree.current, none] at otherCompares
  · rename_i comparison compares
    split
    · rename_i otherNone
      simp [agree.current, compares] at otherNone
    · rename_i otherComparison otherCompares
      obtain rfl : comparison = otherComparison := by
        simpa [agree.current, compares] using otherCompares
      refine .bind (advance_sameResult agree) ?_
      intro passed otherPassed same agreeBehind
      exact .ok rfl agreeBehind

theorem literal_sameResult
    (agree : reader.AgreeToEnd other) :
    SameResult reader.literal other.literal := by
  unfold literal
  by_cases isLiteral : reader.current.kind.isLiteral = true
  · rw [dif_pos isLiteral, dif_pos (agree.current ▸ isLiteral)]
    refine .bind (advance_sameResult agree) ?_
    intro passed otherPassed same agreeBehind
    exact .ok (by simp only [Parsed.map, same]) agreeBehind
  · rw [dif_neg isLiteral, dif_neg (agree.current ▸ isLiteral)]
    exact unexpected_sameResult agree _

theorem comparison_sameResult
    (agree : reader.AgreeToEnd other) :
    SameResult reader.comparison other.comparison := by
  unfold comparison
  refine .bind (identifier_sameResult agree _) ?_
  intro column otherColumn sameColumn agreeColumn
  refine .bind (operator_sameResult agreeColumn) ?_
  intro operator otherOperator sameOperator agreeOperator
  refine .bind (literal_sameResult agreeOperator) ?_
  intro value otherValue sameValue agreeValue
  refine .ok ?_ agreeValue
  simp only [Parsed.behind, Parsed.map, sameColumn, sameOperator, sameValue]

/-! ## Conditions -/

/-- What holds of `atom`, as the induction over the three readers needs it. -/
def AtomSame (reader : Reader) : Prop :=
  ∀ other : Reader, reader.AgreeToEnd other → SameResult reader.atom other.atom

/-- What holds of `condition`, for each least power. -/
def ConditionSame
    (reader : Reader)
    (leastPower : Nat) :
    Prop :=
  ∀ other : Reader,
    reader.AgreeToEnd other →
    SameResult (reader.condition leastPower) (other.condition leastPower)

/-- What holds of `operands` behind an operand, whatever calls it belongs to. -/
def OperandsSame
    (origin : Reader)
    (leastPower : Nat)
    (left : Condition)
    (reader : Reader)
    (progress : reader.pending < origin.pending) :
    Prop :=
  ∀ (otherOrigin other : Reader)
    (otherProgress : other.pending < otherOrigin.pending),
    reader.AgreeToEnd other →
    SameResult (operands origin leastPower left reader progress)
      (operands otherOrigin leastPower left other otherProgress)

theorem atomSame_of_group
    (opens : reader.current.kind = .leftParen)
    (roomy : ¬ reader.maxDepth ≤ reader.depth)
    (inside :
      ∀ opened : Parsed reader Token,
        ConditionSame { opened.after with depth := opened.after.depth + 1 } 0) :
    AtomSame reader := by
  intro other agree
  have otherRoomy : ¬ other.maxDepth ≤ other.depth := by
    rw [agree.maxDepth, agree.depth]
    exact roomy
  rw [atom_eq_of_group opens roomy, atom_eq_of_group (agree.current ▸ opens) otherRoomy]
  refine .bind (advance_sameResult agree) ?_
  rintro opened otherOpened - agreeInside
  have agreeDeeper :=
    agreeInside.withDepth (congrArg (· + 1) agreeInside.depth)
  refine .bind (inside opened _ agreeDeeper) ?_
  rintro inner otherInner sameInner agreeBehind
  refine .bind (expect_sameResult agreeBehind) ?_
  rintro closing otherClosing - agreeClosing
  exact .ok sameInner (agreeClosing.withDepth (congrArg (· - 1) agreeClosing.depth))

theorem atomSame_of_tooDeep
    (opens : reader.current.kind = .leftParen)
    (deep : reader.maxDepth ≤ reader.depth) :
    AtomSame reader := by
  intro other agree
  have otherDeep : other.maxDepth ≤ other.depth := by
    rw [agree.maxDepth, agree.depth]
    exact deep
  rw [atom_eq_of_tooDeep opens deep,
    atom_eq_of_tooDeep (agree.current ▸ opens) otherDeep, agree.current, agree.maxDepth]
  exact .error _

theorem atomSame_of_not_group
    (notOpening : reader.current.kind ≠ .leftParen) :
    AtomSame reader := by
  intro other agree
  rw [atom_eq_of_not_group notOpening,
    atom_eq_of_not_group (agree.current ▸ notOpening)]
  by_cases named : reader.current.kind = .identifier
  · rw [if_pos named, if_pos (agree.current ▸ named)]
    exact comparison_sameResult agree
  · rw [if_neg named, if_neg (agree.current ▸ named)]
    exact unexpected_sameResult agree _

theorem conditionSame_of_atom
    {leastPower : Nat}
    (operand : AtomSame reader)
    (more :
      ∀ left : Parsed reader Condition,
        OperandsSame reader leastPower left.value left.after left.progress) :
    ConditionSame reader leastPower := by
  intro other agree
  rw [condition, condition]
  refine .bind (operand other agree) ?_
  intro left otherLeft sameLeft agreeBehind
  rw [sameLeft]
  exact more left other otherLeft.after otherLeft.progress agreeBehind

theorem operandsSame_of_stop
    {origin : Reader}
    {leastPower : Nat}
    {left : Condition}
    {progress : reader.pending < origin.pending}
    (leaves : LeavesTo leastPower reader.current.kind) :
    OperandsSame origin leastPower left reader progress := by
  intro otherOrigin other otherProgress agree
  have otherLeaves : LeavesTo leastPower other.current.kind :=
    agree.current ▸ leaves
  rw [operands_of_leavesTo leaves, operands_of_leavesTo otherLeaves]
  exact .ok rfl agree

theorem operandsSame_of_join
    {origin : Reader}
    {leastPower : Nat}
    {left : Condition}
    {progress : reader.pending < origin.pending}
    {connective : Connective}
    (joins : reader.current.kind.connective? = some connective)
    (strong : ¬ connective.leftPower < leastPower)
    (right :
      ∀ passed : Parsed reader Token,
        ConditionSame passed.after connective.rightPower)
    (more :
      ∀ (passed : Parsed reader Token)
        (right : Parsed passed.after Condition)
        (behind : right.after.pending < origin.pending),
        OperandsSame origin leastPower (.join connective left right.value)
          right.after behind) :
    OperandsSame origin leastPower left reader progress := by
  intro otherOrigin other otherProgress agree
  have otherJoins : other.current.kind.connective? = some connective :=
    agree.current ▸ joins
  rw [operands_of_joins joins strong, operands_of_joins otherJoins strong]
  refine .bind (advance_sameResult agree) ?_
  rintro passed otherPassed - agreeRight
  refine .bind (right passed _ agreeRight) ?_
  intro operand otherOperand sameOperand agreeBehind
  rw [sameOperand]
  exact more passed operand _ _ _ _ agreeBehind

/-- The three readers of a condition read nothing behind the end of input. -/
theorem sameResult_of_condition :
    (∀ reader, AtomSame reader) ∧
      (∀ reader leastPower, ConditionSame reader leastPower) ∧
        ∀ origin leastPower left reader progress,
          OperandsSame origin leastPower left reader progress := by
  apply condition_induction
  case tooDeep =>
    intro reader opens deep
    exact atomSame_of_tooDeep opens deep
  case group =>
    intro reader opens roomy inside
    exact atomSame_of_group opens roomy inside
  case notGroup =>
    intro reader notOpening
    exact atomSame_of_not_group notOpening
  case condition =>
    intro reader leastPower operand more
    exact conditionSame_of_atom operand more
  case stop =>
    intro origin leastPower left reader progress leaves
    exact operandsSame_of_stop leaves
  case join =>
    intro origin leastPower left reader progress connective joins strong right more
    exact operandsSame_of_join joins strong right more

/-! ## Queries -/

theorem moreNames_sameResult
    {origin : Reader}
    {found : List Identifier}
    {progress : reader.pending < origin.pending}
    {otherOrigin : Reader}
    {otherProgress : other.pending < otherOrigin.pending}
    (agree : reader.AgreeToEnd other) :
    SameResult (moreNames origin found reader progress)
      (moreNames otherOrigin found other otherProgress) := by
  induction found, reader, progress using Reader.moreNames.induct generalizing
    other with
  | case1 found reader progress separated inductionHypothesis =>
      rw [moreNames, dif_pos separated, moreNames, dif_pos (agree.current ▸ separated)]
      refine .bind (advance_sameResult agree) ?_
      rintro comma otherComma - agreeName
      refine .bind (identifier_sameResult agreeName _) ?_
      intro name otherName sameName agreeBehind
      rw [sameName]
      exact inductionHypothesis comma name agreeBehind
  | case2 found reader progress notSeparated =>
      rw [moreNames, dif_neg notSeparated, moreNames,
        dif_neg (agree.current ▸ notSeparated)]
      exact .ok rfl agree

theorem selection_sameResult
    (agree : reader.AgreeToEnd other) :
    SameResult reader.selection other.selection := by
  unfold selection
  by_cases asterisk : reader.current.kind = .asterisk
  · rw [dif_pos asterisk, dif_pos (agree.current ▸ asterisk)]
    refine .bind (advance_sameResult agree) ?_
    rintro passed otherPassed - agreeBehind
    exact .ok rfl agreeBehind
  · rw [dif_neg asterisk, dif_neg (agree.current ▸ asterisk)]
    refine .bind (identifier_sameResult agree _) ?_
    intro first otherFirst sameFirst agreeNames
    rw [sameFirst]
    refine .bind (moreNames_sameResult agreeNames) ?_
    intro names otherNames sameNames agreeBehind
    exact .ok (by simp only [Parsed.map, sameNames]) agreeBehind

theorem filter?_sameResult
    {origin otherOrigin : Reader}
    {progress : reader.pending < origin.pending}
    {otherProgress : other.pending < otherOrigin.pending}
    (agree : reader.AgreeToEnd other) :
    SameResult (filter? origin reader progress)
      (filter? otherOrigin other otherProgress) := by
  unfold filter?
  by_cases filtered : reader.current.kind = .keyword .whereWord
  · rw [dif_pos filtered, dif_pos (agree.current ▸ filtered)]
    refine .bind (advance_sameResult agree) ?_
    rintro passed otherPassed - agreeCondition
    refine .bind (sameResult_of_condition.2.1 _ 0 _ agreeCondition) ?_
    intro condition otherCondition sameCondition agreeBehind
    exact .ok (by simp only [Parsed.behind, Parsed.map, sameCondition]) agreeBehind
  · rw [dif_neg filtered, dif_neg (agree.current ▸ filtered)]
    exact .ok rfl agree

theorem statement_sameResult
    (agree : reader.AgreeToEnd other) :
    SameResult reader.statement other.statement := by
  unfold statement
  refine .bind (expect_sameResult agree) ?_
  rintro opening otherOpening - agreeSelection
  refine .bind (selection_sameResult agreeSelection) ?_
  intro selection otherSelection sameSelection agreeMiddle
  rw [sameSelection]
  refine .bind (expect_sameResult agreeMiddle) ?_
  rintro middle otherMiddle - agreeTable
  refine .bind (identifier_sameResult agreeTable _) ?_
  intro table otherTable sameTable agreeFilter
  refine .bind (filter?_sameResult agreeFilter) ?_
  intro filter otherFilter sameFilter agreeBehind
  exact .ok (by simp only [Parsed.map, sameTable, sameFilter]) agreeBehind

/-- Readers that agree up to an end of input read the same query, or fail alike. -/
theorem query_eq
    (agree : reader.AgreeToEnd other) :
    other.query = reader.query := by
  have same := statement_sameResult agree
  unfold query
  generalize reader.statement = result at same ⊢
  generalize other.statement = otherResult at same ⊢
  cases same with
  | error failure =>
      rfl
  | ok sameValue agreeBehind =>
      simp only [bind, Except.bind, sameValue, agreeBehind.current, unexpected]

end Reader

/--
Streams that agree up to some end of input are read alike, whatever stands behind it
and whether or not they fail there.
-/
theorem Query.ofStream_eq_of_agree
    {stream other : TokenStream}
    {shared more others : List Token}
    {last : Token}
    (isEnd : last.kind = .endOfInput)
    (tokens : stream.tokens = shared ++ last :: more)
    (otherTokens : other.tokens = shared ++ last :: others)
    (maxDepth : Nat) :
    Query.ofStream other maxDepth = Query.ofStream stream maxDepth := by
  have starts :
      ∃ first rest otherRest,
        stream.tokens = first :: rest ∧ other.tokens = first :: otherRest := by
    cases shared with
    | nil =>
        exact ⟨last, more, others, tokens, otherTokens⟩
    | cons first later =>
        exact ⟨first, _, _, tokens, otherTokens⟩
  obtain ⟨first, rest, otherRest, shape, otherShape⟩ := starts
  simp only [ofStream, Reader.start, shape, otherShape, bind, Except.bind]
  apply Reader.query_eq
  refine ⟨⟨shared, last, more, others, isEnd, ?_, ?_⟩, rfl, rfl⟩
  · rw [← tokens, shape]
    rfl
  · rw [← otherTokens, otherShape]
    rfl

end SelectCypher
