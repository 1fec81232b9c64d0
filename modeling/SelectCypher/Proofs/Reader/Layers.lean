import SelectCypher.Proofs.Reader.Condition

namespace SelectCypher

open Grammar

/-!
# Binding powers read the layers of the grammar

The grammar of a condition has three layers, and a reader could follow them with one
procedure for each: a disjunction is one conjunction and, as long as `OR` comes next,
another one folded into it; a conjunction is the same of operands and `AND`.  The one
loop that goes by binding powers does just this for the layer of its least power.
-/

namespace Reader

/--
Fold further parts into a condition, as long as their connective stands in front of
each of them.
-/
def foldParts
    (connective : Connective)
    (origin : Reader)
    (part :
      (reader : Reader) →
        reader.pending < origin.pending →
          Except QueryError (Parsed reader Condition))
    (left : Condition)
    (reader : Reader)
    (progress : reader.pending < origin.pending) :
    Except QueryError (Parsed origin Condition) :=
  if joins : reader.current.kind.connective? = some connective then do
    let passed ← reader.advance (TokenKind.ne_endOfInput_of_connective? joins)
    let right ← part passed.after (Nat.lt_trans passed.progress progress)
    foldParts connective origin part (.join connective left right.value) right.after
      (Nat.lt_trans right.progress (Nat.lt_trans passed.progress progress))
  else
    .ok { value := left, after := reader, progress := progress }
termination_by reader.pending
decreasing_by exact Nat.lt_trans right.progress passed.progress

mutual

/-- Read a comparison or a disjunction in parentheses, which may be nested too deep. -/
def operand (reader : Reader) : Except QueryError (Parsed reader Condition) :=
  if opens : reader.current.kind = .leftParen then
    if reader.maxDepth ≤ reader.depth then
      .error (.tooDeep reader.current.position reader.maxDepth)
    else do
      let opened ← reader.advance (by simp [opens])
      let inner ←
        { opened.after with depth := opened.after.depth + 1 }.disjunction
      let closed ←
        inner.after.expect .rightParen
          [.keyword .andWord, .keyword .orWord, .rightParen]
      return {
        value := inner.value
        after := { closed.after with depth := closed.after.depth - 1 }
        progress :=
          Nat.lt_trans closed.progress (Nat.lt_trans inner.progress opened.progress) }
  else if reader.current.kind = .identifier then
    reader.comparison
  else
    .error (reader.unexpected [.identifier, .leftParen])
termination_by (reader.pending, 0)
decreasing_by exact .left _ _ opened.progress

/-- Read an operand, and further ones as long as `AND` stands in front of them. -/
def conjunction (reader : Reader) : Except QueryError (Parsed reader Condition) := do
  let first ← reader.operand
  foldParts .and reader (fun further _ => further.operand) first.value first.after
    first.progress
termination_by (reader.pending, 1)

/-- Read a conjunction, and further ones as long as `OR` stands in front of them. -/
def disjunction (reader : Reader) : Except QueryError (Parsed reader Condition) := do
  let first ← reader.conjunction
  foldParts .or reader (fun further _ => further.conjunction) first.value first.after
    first.progress
termination_by (reader.pending, 2)

end

/-- The procedure that reads a layer. -/
def readLayer : Layer → (reader : Reader) → Except QueryError (Parsed reader Condition)
  | .disjunction, reader => reader.disjunction
  | .conjunction, reader => reader.conjunction
  | .operand, reader => reader.operand

/-! ## Folding parts -/

section Folding

variable {connective : Connective}
variable {origin reader : Reader}
variable {part :
  (reader : Reader) →
    reader.pending < origin.pending →
      Except QueryError (Parsed reader Condition)}
variable {left : Condition}
variable {progress : reader.pending < origin.pending}

/-- Where another kind of token follows, nothing is folded. -/
theorem foldParts_of_stop
    (stops : reader.current.kind.connective? ≠ some connective) :
    foldParts connective origin part left reader progress =
      .ok { value := left, after := reader, progress := progress } := by
  rw [foldParts, dif_neg stops]

/-- Behind the connective one part is read and folded, and then further ones. -/
theorem foldParts_of_joins
    (joins : reader.current.kind.connective? = some connective) :
    foldParts connective origin part left reader progress =
      (do
        let passed ←
          reader.advance (TokenKind.ne_endOfInput_of_connective? joins)
        let right ← part passed.after (Nat.lt_trans passed.progress progress)
        foldParts connective origin part (.join connective left right.value) right.after
          (Nat.lt_trans right.progress (Nat.lt_trans passed.progress progress))) := by
  rw [foldParts, dif_pos joins]

/-- The connective is folded as long as it comes next, so it does not follow. -/
theorem foldParts_leaves
    {folded : Parsed origin Condition}
    (folds : foldParts connective origin part left reader progress = .ok folded) :
    folded.after.current.kind.connective? ≠ some connective := by
  fun_induction foldParts connective origin part left reader progress with
  | case1 left reader progress joins inductionHypothesis =>
      cases advanced : reader.advance (TokenKind.ne_endOfInput_of_connective? joins) with
      | error failure =>
          rw [advanced] at folds
          cases folds
      | ok passed =>
          rw [advanced] at folds
          cases read : part passed.after (Nat.lt_trans passed.progress progress) with
          | error failure =>
              simp only [bind, Except.bind, read] at folds
              cases folds
          | ok right =>
              simp only [bind, Except.bind, read] at folds
              exact inductionHypothesis passed right folds
  | case2 left reader progress stops =>
      cases folds
      exact stops

end Folding

/--
Fold into an operand what belongs to its layer: to a disjunction first the operands of
the conjunction that it begins with.
-/
def foldLayer
    (layer : Layer)
    (origin : Reader)
    (left : Condition)
    (reader : Reader)
    (progress : reader.pending < origin.pending) :
    Except QueryError (Parsed origin Condition) :=
  match layer with
  | .operand =>
      .ok { value := left, after := reader, progress := progress }
  | .conjunction =>
      foldParts .and origin (fun further _ => further.operand) left reader progress
  | .disjunction => do
      let first ←
        foldParts .and origin (fun further _ => further.operand) left reader progress
      foldParts .or origin (fun further _ => further.conjunction) first.value first.after
        first.progress

/-- Every layer begins with an operand. -/
theorem readLayer_eq
    (layer : Layer)
    (reader : Reader) :
    reader.readLayer layer =
      (do
        let first ← reader.operand
        foldLayer layer reader first.value first.after first.progress) := by
  cases layer with
  | operand =>
      exact (bind_pure reader.operand).symm
  | conjunction =>
      rw [readLayer, conjunction]
      rfl
  | disjunction =>
      rw [readLayer, disjunction, conjunction, bind_assoc]
      rfl

theorem conjunction_leaves
    {reader : Reader}
    {read : Parsed reader Condition}
    (reads : reader.conjunction = .ok read) :
    read.after.current.kind.connective? ≠ some .and := by
  rw [conjunction] at reads
  cases first : reader.operand with
  | error failure =>
      rw [first] at reads
      cases reads
  | ok operand =>
      rw [first] at reads
      exact foldParts_leaves reads

/-- A layer folds nothing where a call of its least power stops. -/
theorem foldLayer_of_leavesTo
    {origin reader : Reader}
    {leastPower : Nat}
    {left : Condition}
    {progress : reader.pending < origin.pending}
    (leaves : LeavesTo leastPower reader.current.kind) :
    foldLayer (.ofPower leastPower) origin left reader progress =
      .ok { value := left, after := reader, progress := progress } := by
  have stops :
      ∀ connective : Connective,
        leastPower ≤ connective.leftPower →
        reader.current.kind.connective? ≠ some connective := by
    intro connective strong joins
    exact Nat.not_lt_of_le strong (leaves connective joins)
  unfold Layer.ofPower
  split
  · rename_i folds
    rw [foldLayer, foldParts_of_stop (stops .and (Nat.le_trans folds (by decide)))]
    exact foldParts_of_stop (stops .or folds)
  · split
    · rename_i folds
      exact foldParts_of_stop (stops .and folds)
    · rfl

/-- A connective that a layer folds is passed, and the layer of its right operand read. -/
theorem foldLayer_of_joins
    {origin reader : Reader}
    {leastPower : Nat}
    {left : Condition}
    {progress : reader.pending < origin.pending}
    {connective : Connective}
    (joins : reader.current.kind.connective? = some connective)
    (strong : leastPower ≤ connective.leftPower) :
    foldLayer (.ofPower leastPower) origin left reader progress =
      (do
        let passed ←
          reader.advance (TokenKind.ne_endOfInput_of_connective? joins)
        let right ← passed.after.readLayer (.ofPower connective.rightPower)
        foldLayer (.ofPower leastPower) origin (.join connective left right.value)
          right.after
          (Nat.lt_trans right.progress (Nat.lt_trans passed.progress progress))) := by
  cases connective with
  | and =>
      have folds : leastPower ≤ 3 := strong
      by_cases foldsOr : leastPower ≤ 1
      · have layer : Layer.ofPower leastPower = .disjunction := if_pos foldsOr
        rw [layer, foldLayer, foldParts_of_joins joins, bind_assoc]
        refine bind_congr fun passed => ?_
        rw [bind_assoc]
        rfl
      · have layer : Layer.ofPower leastPower = .conjunction := by
          rw [Layer.ofPower, if_neg foldsOr, if_pos folds]
        rw [layer]
        exact foldParts_of_joins joins
  | or =>
      have layer : Layer.ofPower leastPower = .disjunction := if_pos strong
      have noAnd : reader.current.kind.connective? ≠ some .and := by
        rw [joins]
        decide
      rw [layer, foldLayer, foldParts_of_stop noAnd]
      refine (foldParts_of_joins joins).trans (bind_congr fun passed => ?_)
      -- Behind a conjunction no `AND` is left that could be folded first.
      change
        (passed.after.conjunction >>= _) = (passed.after.conjunction >>= _)
      cases reads : passed.after.conjunction with
      | error failure =>
          rfl
      | ok right =>
          change foldParts .or _ _ _ _ _ = foldLayer .disjunction _ _ _ _
          rw [foldLayer, foldParts_of_stop (conjunction_leaves reads)]
          rfl

/-! ## One loop for all layers -/

/-- What holds of `atom`, as the induction over the three readers needs it. -/
def AtomReadsOperand (reader : Reader) : Prop :=
  reader.atom = reader.operand

/-- What holds of `condition`: it reads the layer of its least power. -/
def ConditionReadsLayer
    (reader : Reader)
    (leastPower : Nat) :
    Prop :=
  reader.condition leastPower = reader.readLayer (.ofPower leastPower)

/-- What holds of `operands`: it folds what belongs to the layer of its least power. -/
def OperandsFoldLayer
    (origin : Reader)
    (leastPower : Nat)
    (left : Condition)
    (reader : Reader)
    (progress : reader.pending < origin.pending) :
    Prop :=
  operands origin leastPower left reader progress =
    foldLayer (.ofPower leastPower) origin left reader progress

theorem atomReadsOperand_of_group
    {reader : Reader}
    (opens : reader.current.kind = .leftParen)
    (roomy : ¬ reader.maxDepth ≤ reader.depth)
    (inside :
      ∀ opened : Parsed reader Token,
        ConditionReadsLayer
          { opened.after with depth := opened.after.depth + 1 } 0) :
    AtomReadsOperand reader := by
  rw [AtomReadsOperand, atom_eq_of_group opens roomy, operand, dif_pos opens,
    if_neg roomy]
  refine bind_congr fun opened => ?_
  rw [inside opened]
  rfl

theorem conditionReadsLayer_of_atom
    {reader : Reader}
    {leastPower : Nat}
    (reads : AtomReadsOperand reader)
    (more :
      ∀ left : Parsed reader Condition,
        OperandsFoldLayer reader leastPower left.value left.after left.progress) :
    ConditionReadsLayer reader leastPower := by
  rw [ConditionReadsLayer, condition, readLayer_eq, reads]
  exact bind_congr more

theorem operandsFoldLayer_of_stop
    {origin reader : Reader}
    {leastPower : Nat}
    {left : Condition}
    {progress : reader.pending < origin.pending}
    (leaves : LeavesTo leastPower reader.current.kind) :
    OperandsFoldLayer origin leastPower left reader progress := by
  rw [OperandsFoldLayer, operands_of_leavesTo leaves, foldLayer_of_leavesTo leaves]

theorem operandsFoldLayer_of_join
    {origin reader : Reader}
    {leastPower : Nat}
    {left : Condition}
    {progress : reader.pending < origin.pending}
    {connective : Connective}
    (joins : reader.current.kind.connective? = some connective)
    (strong : ¬ connective.leftPower < leastPower)
    (right :
      ∀ passed : Parsed reader Token,
        ConditionReadsLayer passed.after connective.rightPower)
    (more :
      ∀ (passed : Parsed reader Token)
        (right : Parsed passed.after Condition)
        (behind : right.after.pending < origin.pending),
        OperandsFoldLayer origin leastPower (.join connective left right.value)
          right.after behind) :
    OperandsFoldLayer origin leastPower left reader progress := by
  rw [OperandsFoldLayer, operands_of_joins joins strong,
    foldLayer_of_joins joins (Nat.le_of_not_lt strong)]
  refine bind_congr fun passed => ?_
  rw [right passed]
  exact bind_congr fun operand => more passed operand _

/-- The loop that goes by binding powers reads the layers of the grammar. -/
theorem layered_condition :
    (∀ reader, AtomReadsOperand reader) ∧
      (∀ reader leastPower, ConditionReadsLayer reader leastPower) ∧
        ∀ origin leastPower left reader progress,
          OperandsFoldLayer origin leastPower left reader progress := by
  apply condition_induction
  case tooDeep =>
    intro reader opens deep
    rw [AtomReadsOperand, atom_eq_of_tooDeep opens deep, operand, dif_pos opens,
      if_pos deep]
  case group =>
    intro reader opens roomy inside
    exact atomReadsOperand_of_group opens roomy inside
  case notGroup =>
    intro reader notOpening
    rw [AtomReadsOperand, atom_eq_of_not_group notOpening, operand, dif_neg notOpening]
  case condition =>
    intro reader leastPower operand more
    exact conditionReadsLayer_of_atom operand more
  case stop =>
    intro origin leastPower left reader progress leaves
    exact operandsFoldLayer_of_stop leaves
  case join =>
    intro origin leastPower left reader progress connective joins strong right more
    exact operandsFoldLayer_of_join joins strong right more

/--
Whatever the tokens, the depth and its limit, reading a condition with the powers 0,
2 and 4 is reading a disjunction, a conjunction and an operand: the same condition with
the same reader behind it, or the same error.
-/
theorem condition_eq_layers (reader : Reader) :
    reader.condition 0 = reader.disjunction ∧
      reader.condition 2 = reader.conjunction ∧
      reader.condition 4 = reader.operand := by
  have reads := layered_condition.2.1 reader
  exact ⟨reads 0, reads 2, reads 4⟩

end Reader

end SelectCypher
