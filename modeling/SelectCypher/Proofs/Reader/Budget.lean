import SelectCypher.Proofs.Reader.Calls
import SelectCypher.Proofs.Reader.Depth

namespace SelectCypher

open Grammar

/-!
# Nested calls keep within a budget

A condition inside a condition is read by a call inside a call.  From one parenthesis
to the next at most three of them are nested, since a right operand is read with a
higher power than the condition it belongs to, and parentheses are nested no deeper
than their limit.  So the limit bounds the calls that are active at once, however long
a condition is and however many parentheses it has.
-/

namespace Reader

/-! ## Calls inside calls -/

/--
The number of calls that can be nested from one with a least power on, itself included,
as long as no parenthesis is passed: each has a power that folds less.
-/
def callsFrom (leastPower : Nat) : Nat :=
  if leastPower ≤ 1 then
    3
  else if leastPower ≤ 3 then
    2
  else
    1

theorem callsFrom_bounds (leastPower : Nat) :
    1 ≤ callsFrom leastPower ∧ callsFrom leastPower ≤ 3 := by
  unfold callsFrom
  split
  · decide
  · split <;> decide

/-- A right operand is read by a call from which fewer calls can be nested. -/
theorem callsFrom_rightPower_lt
    {connective : Connective}
    {leastPower : Nat}
    (strong : ¬ connective.leftPower < leastPower) :
    callsFrom connective.rightPower < callsFrom leastPower := by
  cases connective with
  | or =>
      have folds : leastPower ≤ 1 := Nat.le_of_not_lt strong
      simp [callsFrom, Connective.rightPower, folds]
  | and =>
      have folds : leastPower ≤ 3 := Nat.le_of_not_lt strong
      by_cases foldsOr : leastPower ≤ 1
      · simp [callsFrom, Connective.rightPower, foldsOr]
      · simp [callsFrom, Connective.rightPower, foldsOr, folds]

namespace Call

/-- A call for a condition counts as one, a call or a pass of the loop in it as none. -/
def conditions : Call → Nat
  | condition _ _ => 1
  | atom _ | operands _ _ => 0

/-- The number of calls for conditions that are still possible down to the operands. -/
def callsFrom : Call → Nat
  | condition _ leastPower | operands _ leastPower => Reader.callsFrom leastPower
  | atom _ => 1

theorem callsFrom_bounds (call : Call) :
    1 ≤ call.callsFrom ∧ call.callsFrom ≤ 3 := by
  cases call with
  | condition reader leastPower | operands reader leastPower =>
      exact Reader.callsFrom_bounds leastPower
  | atom reader =>
      simp [callsFrom]

/-- What is left to read, by which every call is smaller than the one that makes it. -/
def size : Call → Nat
  | condition reader _ => 2 * reader.pending + 1
  | atom reader | operands reader _ => 2 * reader.pending

end Call

/-- Calls that are active at once, counted from an outer one of them on. -/
inductive Nested (outer : Call) : Nat → Call → Prop
  | outer :
      Nested outer outer.conditions outer
  | further
      {count : Nat}
      {caller callee : Call} :
      Nested outer count caller →
      Calls caller callee →
      Nested outer (count + callee.conditions) callee

theorem Calls.size_lt
    {caller callee : Call}
    (calls : Calls caller callee) :
    callee.size < caller.size := by
  cases calls with
  | operand =>
      exact Nat.lt_succ_self _
  | @loop reader leastPower left readLeft =>
      have progress := left.progress
      simp only [Call.size]
      omega
  | @group reader opened opens roomy advanced =>
      have progress := opened.progress
      simp only [Call.size, pending] at progress ⊢
      omega
  | @right reader leastPower connective passed joins strong advanced =>
      have progress := passed.progress
      simp only [Call.size]
      omega
  | @again reader leastPower connective passed right joins strong advanced readRight =>
      have progress := passed.progress
      have further := right.progress
      simp only [Call.size]
      omega

/-- Calls make no endless chain. -/
theorem wellFounded_calls :
    WellFounded fun callee caller : Call => Calls caller callee :=
  Subrelation.wf Calls.size_lt (measure Call.size).wf

/--
What a call does to the count of open parentheses and to the calls that can still be
nested: it keeps the first and uses up the second, or it passes one more parenthesis,
behind which three more calls can be nested.
-/
structure Deepens (caller callee : Call) : Prop where
  limit : callee.reader.maxDepth = caller.reader.maxDepth
  counts :
    (callee.reader.depth = caller.reader.depth ∧
        callee.conditions + callee.callsFrom ≤ caller.callsFrom) ∨
      (callee.reader.depth = caller.reader.depth + 1 ∧
        caller.reader.depth < caller.reader.maxDepth ∧
        callee.conditions + callee.callsFrom ≤ caller.callsFrom + 3)

theorem Calls.deepens
    {caller callee : Call}
    (calls : Calls caller callee) :
    Deepens caller callee := by
  cases calls with
  | @operand reader leastPower =>
      refine ⟨rfl, .inl ⟨rfl, ?_⟩⟩
      simpa [Call.conditions, Call.callsFrom] using (callsFrom_bounds leastPower).1
  | @loop reader leastPower left readLeft =>
      have behind := keepsDepth_of_condition.1 reader _ _ ⟨rfl, rfl⟩ left readLeft
      refine ⟨behind.maxDepth, .inl ⟨behind.depth, ?_⟩⟩
      simp [Call.conditions, Call.callsFrom]
  | @group reader opened opens roomy advanced =>
      have inside := advance_endsAtDepth ⟨rfl, rfl⟩ _ opened advanced
      refine ⟨inside.maxDepth,
        .inr ⟨congrArg (· + 1) inside.depth, Nat.lt_of_not_le roomy, ?_⟩⟩
      simp [Call.conditions, Call.callsFrom, callsFrom]
  | @right reader leastPower connective passed joins strong advanced =>
      have behind := advance_endsAtDepth ⟨rfl, rfl⟩ _ passed advanced
      have fewer := callsFrom_rightPower_lt strong
      refine ⟨behind.maxDepth, .inl ⟨behind.depth, ?_⟩⟩
      simp only [Call.conditions, Call.callsFrom]
      omega
  | @again reader leastPower connective passed right joins strong advanced readRight =>
      have behind := advance_endsAtDepth ⟨rfl, rfl⟩ _ passed advanced
      have further :=
        keepsDepth_of_condition.2.1 passed.after _ _ _ behind right readRight
      refine ⟨further.maxDepth, .inl ⟨further.depth, ?_⟩⟩
      simp [Call.conditions, Call.callsFrom]

/-- A call that is given a reader within its limit. -/
structure Call.Within
    (maxDepth : Nat)
    (call : Call) :
    Prop where
  limit : call.reader.maxDepth = maxDepth
  within : call.reader.depth ≤ maxDepth

theorem Deepens.within
    {maxDepth : Nat}
    {caller callee : Call}
    (deepens : Deepens caller callee)
    (within : caller.Within maxDepth) :
    callee.Within maxDepth := by
  refine ⟨deepens.limit.trans within.limit, ?_⟩
  have limit := within.limit
  have small := within.within
  rcases deepens.counts with ⟨same, -⟩ | ⟨deeper, roomy, -⟩
  · omega
  · omega

/-- No more calls are nested than the parentheses passed and the powers left allow. -/
theorem Nested.count_le
    {outer call : Call}
    {maxDepth count : Nat}
    (nested : Nested outer count call)
    (within : outer.Within maxDepth) :
    call.Within maxDepth ∧ count + call.callsFrom ≤ 3 * call.reader.depth + 4 := by
  induction nested with
  | outer =>
      refine ⟨within, ?_⟩
      have bounds := outer.callsFrom_bounds
      cases outer <;> simp only [Call.conditions] <;> omega
  | further nested calls inductionHypothesis =>
      obtain ⟨callerWithin, fits⟩ := inductionHypothesis
      have deepens := calls.deepens
      refine ⟨deepens.within callerWithin, ?_⟩
      rcases deepens.counts with ⟨same, fewer⟩ | ⟨deeper, -, more⟩
      · omega
      · omega

/-- Every call that reading a query makes is given a reader within its limit. -/
theorem Visits.within
    {start : Reader}
    {call : Call}
    {maxDepth : Nat}
    (visits : Visits start call)
    (fresh : start.AtDepth 0 maxDepth) :
    call.Within maxDepth := by
  induction visits with
  | @filter opening selection middle table passed filtered opened selected joined named
      advanced =>
      have atSelection := expect_endsAtDepth fresh opening opened
      have atSource := selection_endsAtDepth atSelection selection selected
      have atTable := expect_endsAtDepth atSource middle joined
      have behindTable := identifier_endsAtDepth atTable table named
      have atCondition := advance_endsAtDepth behindTable _ passed advanced
      exact ⟨atCondition.maxDepth, by simp [Call.reader, atCondition.depth]⟩
  | further visits calls inductionHypothesis =>
      exact calls.deepens.within inductionHypothesis

end Reader

/-! ## Reading within a budget of nested calls -/

/-- The result of a reading, or nothing if its budget of nested calls was too small. -/
abbrev Budgeted (α : Type) : Type :=
  ExceptT QueryError Option α

namespace Budgeted

/-- A budget that was too small. -/
def exhausted {α : Type} : Budgeted α :=
  ExceptT.mk none

/-- The result of a reading whose budget was large enough. -/
def finished
    {α : Type}
    (result : Except QueryError α) :
    Budgeted α :=
  ExceptT.mk (some result)

/-- What finishes behind a reading that finishes makes a reading that finishes. -/
theorem finished_bind
    {α β : Type}
    {first : Except QueryError α}
    {second : α → Except QueryError β}
    {continuation : α → Budgeted β}
    (finishes :
      ∀ value, first = .ok value → continuation value = finished (second value)) :
    (finished first >>= continuation) = finished (first >>= second) := by
  cases first with
  | error failure =>
      rfl
  | ok value =>
      exact finishes value rfl

end Budgeted

namespace Reader

mutual

/-- Read an operand with a budget of calls for conditions that may be nested in it. -/
def atomWithin
    (budget : Nat)
    (reader : Reader) :
    Budgeted (Parsed reader Condition) :=
  if opens : reader.current.kind = .leftParen then
    if reader.maxDepth ≤ reader.depth then
      throw (.tooDeep reader.current.position reader.maxDepth)
    else do
      let opened ← .finished (reader.advance (by simp [opens]))
      let inner ←
        conditionWithin budget { opened.after with depth := opened.after.depth + 1 } 0
      let closed ←
        .finished
          (inner.after.expect .rightParen
            [.keyword .andWord, .keyword .orWord, .rightParen])
      return {
        value := inner.value
        after := { closed.after with depth := closed.after.depth - 1 }
        progress :=
          Nat.lt_trans closed.progress (Nat.lt_trans inner.progress opened.progress) }
  else if reader.current.kind = .identifier then
    .finished reader.comparison
  else
    throw (reader.unexpected [.identifier, .leftParen])
termination_by 2 * reader.pending
decreasing_by
  have first := opened.progress
  simp only [pending] at first ⊢
  omega

/-- Read a condition, which uses up one of the calls that may be nested. -/
def conditionWithin
    (budget : Nat)
    (reader : Reader)
    (leastPower : Nat) :
    Budgeted (Parsed reader Condition) :=
  match budget with
  | 0 =>
      .exhausted
  | budget + 1 => do
      let left ← atomWithin budget reader
      operandsWithin budget reader leastPower left.value left.after left.progress
termination_by 2 * reader.pending + 1
decreasing_by
  · omega
  · have first := left.progress
    omega

/-- Fold further operands, each with the same budget of calls that may be nested. -/
def operandsWithin
    (budget : Nat)
    (origin : Reader)
    (leastPower : Nat)
    (left : Condition)
    (reader : Reader)
    (progress : reader.pending < origin.pending) :
    Budgeted (Parsed origin Condition) :=
  match joins : reader.current.kind.connective? with
  | none =>
      return { value := left, after := reader, progress := progress }
  | some connective =>
      if connective.leftPower < leastPower then
        return { value := left, after := reader, progress := progress }
      else do
        let passed ←
          .finished (reader.advance (TokenKind.ne_endOfInput_of_connective? joins))
        let right ← conditionWithin budget passed.after connective.rightPower
        operandsWithin budget origin leastPower (.join connective left right.value)
          right.after
          (Nat.lt_trans right.progress (Nat.lt_trans passed.progress progress))
termination_by 2 * reader.pending
decreasing_by
  · have first := passed.progress
    omega
  · have first := passed.progress
    have second := right.progress
    omega

end

/-- What holds of `atomWithin`, as the induction over the three readers needs it. -/
def AtomFits (reader : Reader) : Prop :=
  ∀ budget,
    3 * (reader.maxDepth - reader.depth) ≤ budget →
    atomWithin budget reader = .finished reader.atom

/-- What holds of `conditionWithin`, for each least power. -/
def ConditionFits
    (reader : Reader)
    (leastPower : Nat) :
    Prop :=
  ∀ budget,
    3 * (reader.maxDepth - reader.depth) + callsFrom leastPower ≤ budget →
    conditionWithin budget reader leastPower = .finished (reader.condition leastPower)

/-- What holds of `operandsWithin`, whose own call has been counted already. -/
def OperandsFit
    (origin : Reader)
    (leastPower : Nat)
    (left : Condition)
    (reader : Reader)
    (progress : reader.pending < origin.pending) :
    Prop :=
  ∀ budget,
    3 * (reader.maxDepth - reader.depth) + callsFrom leastPower ≤ budget + 1 →
    operandsWithin budget origin leastPower left reader progress =
      .finished (operands origin leastPower left reader progress)

/-- A parenthesis leaves three calls fewer for what is nested in it. -/
theorem atomFits_of_group
    {reader : Reader}
    (opens : reader.current.kind = .leftParen)
    (roomy : ¬ reader.maxDepth ≤ reader.depth)
    (inside :
      ∀ opened : Parsed reader Token,
        ConditionFits { opened.after with depth := opened.after.depth + 1 } 0) :
    AtomFits reader := by
  intro budget enough
  rw [atomWithin, dif_pos opens, if_neg roomy, atom_eq_of_group opens roomy]
  refine Budgeted.finished_bind fun opened advanced => ?_
  have counts := advance_endsAtDepth ⟨rfl, rfl⟩ _ opened advanced
  have room :
      3 * (opened.after.maxDepth - (opened.after.depth + 1)) + callsFrom 0 ≤ budget := by
    rw [counts.depth, counts.maxDepth, show callsFrom 0 = 3 from rfl]
    omega
  rw [inside opened budget room]
  refine Budgeted.finished_bind fun inner readInside => ?_
  exact Budgeted.finished_bind fun closed readClosing => rfl

theorem conditionFits_of_atom
    {reader : Reader}
    {leastPower : Nat}
    (operand : AtomFits reader)
    (more :
      ∀ left : Parsed reader Condition,
        OperandsFit reader leastPower left.value left.after left.progress) :
    ConditionFits reader leastPower := by
  intro budget enough
  have atLeastOne := (callsFrom_bounds leastPower).1
  cases budget with
  | zero =>
      omega
  | succ budget =>
      rw [conditionWithin, condition, operand budget (by omega)]
      refine Budgeted.finished_bind fun left readLeft => more left budget ?_
      have counts := keepsDepth_of_condition.1 reader _ _ ⟨rfl, rfl⟩ left readLeft
      rw [counts.depth, counts.maxDepth]
      exact enough

theorem operandsFit_of_stop
    {origin reader : Reader}
    {leastPower : Nat}
    {left : Condition}
    {progress : reader.pending < origin.pending}
    (leaves : LeavesTo leastPower reader.current.kind) :
    OperandsFit origin leastPower left reader progress := by
  intro budget enough
  rw [operands_of_leavesTo leaves, operandsWithin]
  split
  · rfl
  · rename_i connective joins
    rw [if_pos (leaves connective joins)]
    rfl

/-- A right operand needs one call fewer than the condition it is folded into. -/
theorem operandsFit_of_join
    {origin reader : Reader}
    {leastPower : Nat}
    {left : Condition}
    {progress : reader.pending < origin.pending}
    {connective : Connective}
    (joins : reader.current.kind.connective? = some connective)
    (strong : ¬ connective.leftPower < leastPower)
    (right :
      ∀ passed : Parsed reader Token,
        ConditionFits passed.after connective.rightPower)
    (more :
      ∀ (passed : Parsed reader Token)
        (right : Parsed passed.after Condition)
        (behind : right.after.pending < origin.pending),
        OperandsFit origin leastPower (.join connective left right.value) right.after
          behind) :
    OperandsFit origin leastPower left reader progress := by
  intro budget enough
  rw [operands_of_joins joins strong, operandsWithin]
  split
  · rename_i none
    simp [none] at joins
  · rename_i found same
    obtain rfl : found = connective := by
      simpa [same] using joins
    rw [if_neg strong]
    refine Budgeted.finished_bind fun passed advanced => ?_
    have counts := advance_endsAtDepth ⟨rfl, rfl⟩ _ passed advanced
    have fewer := callsFrom_rightPower_lt strong
    rw [right passed budget (by rw [counts.depth, counts.maxDepth]; omega)]
    refine Budgeted.finished_bind fun operand readRight => more passed operand _ budget ?_
    have further :=
      keepsDepth_of_condition.2.1 passed.after _ _ _ counts operand readRight
    rw [further.depth, further.maxDepth]
    exact enough

/-- Three calls for each parenthesis that may still be opened, and three more, suffice. -/
theorem fits_of_condition :
    (∀ reader, AtomFits reader) ∧
      (∀ reader leastPower, ConditionFits reader leastPower) ∧
        ∀ origin leastPower left reader progress,
          OperandsFit origin leastPower left reader progress := by
  apply condition_induction
  case tooDeep =>
    intro reader opens deep budget enough
    rw [atomWithin, dif_pos opens, if_pos deep, atom_eq_of_tooDeep opens deep]
    rfl
  case group =>
    intro reader opens roomy inside
    exact atomFits_of_group opens roomy inside
  case notGroup =>
    intro reader notOpening budget enough
    rw [atomWithin, dif_neg notOpening, atom_eq_of_not_group notOpening]
    split <;> rfl
  case condition =>
    intro reader leastPower operand more
    exact conditionFits_of_atom operand more
  case stop =>
    intro origin leastPower left reader progress leaves
    exact operandsFit_of_stop leaves
  case join =>
    intro origin leastPower left reader progress connective joins strong right more
    exact operandsFit_of_join joins strong right more

/-! ## Queries -/

theorem keyword_ne_endOfInput (word : Keyword) :
    TokenKind.keyword word ≠ .endOfInput := by
  simp

theorem ne_endOfInput_of_keyword
    {reader : Reader}
    {word : Keyword}
    (current : reader.current.kind = .keyword word) :
    reader.current.kind ≠ .endOfInput := by
  rw [current]
  exact keyword_ne_endOfInput word

/-- Read the condition behind `WHERE`, if there is one, within a budget. -/
def filterWithin?
    (budget : Nat)
    (origin : Reader)
    (reader : Reader)
    (progress : reader.pending < origin.pending) :
    Budgeted (Parsed origin (Option Condition)) :=
  if filtered : reader.current.kind = .keyword .whereWord then do
    let passed ← .finished (reader.advance (ne_endOfInput_of_keyword filtered))
    let condition ← conditionWithin budget passed.after 0
    return ((condition.map some).behind passed.progress).behind progress
  else
    return { value := none, after := reader, progress := progress }

/-- Read a query up to where it could end, within a budget. -/
def statementWithin
    (budget : Nat)
    (reader : Reader) :
    Budgeted (Parsed reader Query) := do
  let opening ←
    .finished
      (reader.expect (.keyword .selectWord) [.keyword .selectWord]
        (keyword_ne_endOfInput .selectWord))
  let selection ← .finished opening.after.selection
  let middle ←
    .finished
      (selection.after.expect (.keyword .fromWord) (selectionFollow selection.value)
        (keyword_ne_endOfInput .fromWord))
  let table ← .finished (middle.after.identifier [.identifier])
  let filter ←
    filterWithin? budget reader table.after
      (Nat.lt_trans table.progress
        (Nat.lt_trans middle.progress
          (Nat.lt_trans selection.progress opening.progress)))
  return filter.map fun condition? =>
    { selection := selection.value
      table := table.value
      filter? := condition? }

/-- Read a whole query, behind which the input must end, within a budget. -/
def queryWithin
    (budget : Nat)
    (reader : Reader) :
    Budgeted Query := do
  let read ← statementWithin budget reader
  if read.after.current.kind = .endOfInput then
    return read.value
  else
    throw (read.after.unexpected (queryFollow read.value))

variable {maxDepth budget : Nat}

theorem filterWithin?_eq
    {origin reader : Reader}
    {progress : reader.pending < origin.pending}
    (fresh : reader.AtDepth 0 maxDepth)
    (enough : 3 * (maxDepth + 1) ≤ budget) :
    filterWithin? budget origin reader progress =
      .finished (filter? origin reader progress) := by
  unfold filterWithin? filter?
  split
  · refine Budgeted.finished_bind fun passed advanced => ?_
    have counts := advance_endsAtDepth fresh _ passed advanced
    have room :
        3 * (passed.after.maxDepth - passed.after.depth) + callsFrom 0 ≤ budget := by
      rw [counts.depth, counts.maxDepth, show callsFrom 0 = 3 from rfl]
      omega
    rw [fits_of_condition.2.1 passed.after 0 budget room]
    exact Budgeted.finished_bind fun condition read => rfl
  · rfl

theorem queryWithin_eq
    {reader : Reader}
    (fresh : reader.AtDepth 0 maxDepth)
    (enough : 3 * (maxDepth + 1) ≤ budget) :
    queryWithin budget reader = .finished reader.query := by
  have statement : statementWithin budget reader = .finished reader.statement := by
    refine Budgeted.finished_bind fun opening opened => ?_
    have atSelection := expect_endsAtDepth fresh opening opened
    refine Budgeted.finished_bind fun selection selected => ?_
    have atSource := selection_endsAtDepth atSelection selection selected
    refine Budgeted.finished_bind fun middle joined => ?_
    have atTable := expect_endsAtDepth atSource middle joined
    refine Budgeted.finished_bind fun table named => ?_
    have behindTable := identifier_endsAtDepth atTable table named
    rw [filterWithin?_eq behindTable enough]
    exact Budgeted.finished_bind fun filter read => rfl
  rw [queryWithin, statement]
  refine Budgeted.finished_bind fun read _ => ?_
  split <;> rfl

end Reader

namespace Query

/-- The query a token stream holds, if a budget of nested calls suffices to read it. -/
def ofStreamWithin
    (budget : Nat)
    (stream : TokenStream)
    (maxDepth : Nat) :
    Budgeted Query := do
  let reader ← .finished (Reader.start stream maxDepth)
  reader.queryWithin budget

/-- A limit on nesting that bounds the calls for conditions which are active at once. -/
structure BoundsCalls
    (stream : TokenStream)
    (maxDepth : Nat) :
    Prop where
  /-- Calls and passes of their loops come to an end. -/
  ends :
    WellFounded fun callee caller : Reader.Call => Reader.Calls caller callee
  /-- From an outer active call to an inner one no more calls for conditions are active. -/
  nested :
    ∀ start outer count call,
      Reader.start stream maxDepth = .ok start →
      Reader.Visits start outer →
      Reader.Nested outer count call →
      count ≤ 3 * (maxDepth + 1)
  /-- A condition outside of parentheses is read alike within that budget. -/
  condition :
    ∀ reader leastPower,
      reader.AtDepth 0 maxDepth →
      Reader.conditionWithin (3 * (maxDepth + 1)) reader leastPower =
        .finished (reader.condition leastPower)
  query :
    ofStreamWithin (3 * (maxDepth + 1)) stream maxDepth =
      .finished (ofStream stream maxDepth)

/-- A reader starts outside of parentheses. -/
theorem atDepth_of_start
    {stream : TokenStream}
    {maxDepth : Nat}
    {start : Reader}
    (starts : Reader.start stream maxDepth = .ok start) :
    start.AtDepth 0 maxDepth := by
  unfold Reader.start at starts
  split at starts
  · cases starts
    exact ⟨rfl, rfl⟩
  · cases starts
  · cases starts
    exact ⟨rfl, rfl⟩

/--
Reading a stream, however long and however it ends, never needs more than three calls
for conditions inside each other for each parenthesis that may be open, and three more:
a reader that fails when these are used up reads the same.
-/
theorem ofStream_boundsCalls
    (stream : TokenStream)
    (maxDepth : Nat) :
    BoundsCalls stream maxDepth where
  ends := Reader.wellFounded_calls
  nested := by
    intro start outer count call starts visits nested
    have begins := visits.within (atDepth_of_start starts)
    obtain ⟨within, fits⟩ := nested.count_le begins
    have small := within.within
    have atLeastOne := call.callsFrom_bounds.1
    omega
  condition := by
    intro reader leastPower fresh
    have small := (Reader.callsFrom_bounds leastPower).2
    apply Reader.fits_of_condition.2.1
    rw [fresh.depth, fresh.maxDepth]
    omega
  query :=
    Budgeted.finished_bind fun reader starts =>
      Reader.queryWithin_eq (atDepth_of_start starts) (Nat.le_refl _)

/-- A call for each layer in front of a parenthesis and inside it, and not one fewer. -/
example :
    (ofStreamWithin 5
        (.ofText "SELECT * FROM t WHERE a = 1 OR b = 2 AND (c = 3 OR d = 4 AND e = 5)")
        1).run = none := by
  decide +kernel

end Query

end SelectCypher
