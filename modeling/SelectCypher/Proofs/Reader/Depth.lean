import SelectCypher.Proofs.Reader.Condition
import SelectCypher.Reader.Query

namespace SelectCypher

open Grammar

/-!
# The count of open parentheses

Passing a token keeps the count.  A parenthesised condition counts one more inside its
parentheses and again as many behind them, so a condition ends with the count and the
limit it began with.
-/

namespace Reader

/-- A reader that counts so many open parentheses, under such a limit. -/
structure AtDepth
    (depth maxDepth : Nat)
    (reader : Reader) :
    Prop where
  depth : reader.depth = depth
  maxDepth : reader.maxDepth = maxDepth

/-- Behind what is read so many open parentheses are counted. -/
def EndsAtDepth
    {origin : Reader}
    {α : Type}
    (depth maxDepth : Nat)
    (result : Except QueryError (Parsed origin α)) :
    Prop :=
  ∀ parsed, result = .ok parsed → parsed.after.AtDepth depth maxDepth

namespace EndsAtDepth

variable {origin later : Reader}
variable {α β : Type}
variable {depth laterDepth maxDepth : Nat}

theorem error (failure : QueryError) :
    EndsAtDepth depth maxDepth (.error failure : Except QueryError (Parsed origin α)) := by
  rintro parsed ⟨⟩

theorem ok
    {parsed : Parsed origin α}
    (counts : parsed.after.AtDepth depth maxDepth) :
    EndsAtDepth depth maxDepth (.ok parsed) := by
  rintro found ⟨⟩
  exact counts

theorem bind
    {first : Except QueryError (Parsed origin α)}
    {second : Parsed origin α → Except QueryError (Parsed later β)}
    (ends : EndsAtDepth depth maxDepth first)
    (continues :
      ∀ parsed,
        parsed.after.AtDepth depth maxDepth →
        EndsAtDepth laterDepth maxDepth (second parsed)) :
    EndsAtDepth laterDepth maxDepth (first >>= second) := by
  cases first with
  | error failure =>
      exact error failure
  | ok parsed =>
      exact continues parsed (ends parsed rfl)

end EndsAtDepth

section Depth

variable {reader : Reader}
variable {depth maxDepth : Nat}

theorem advance_endsAtDepth
    (counts : reader.AtDepth depth maxDepth)
    (notEnd : reader.current.kind ≠ .endOfInput) :
    EndsAtDepth depth maxDepth (reader.advance notEnd) := by
  unfold advance
  split
  · exact .ok ⟨counts.depth, counts.maxDepth⟩
  · split
    · exact .error _
    · exact .ok ⟨counts.depth, counts.maxDepth⟩

theorem expect_endsAtDepth
    {kind : TokenKind}
    {expected : List TokenKind}
    {notEnd : kind ≠ .endOfInput}
    (counts : reader.AtDepth depth maxDepth) :
    EndsAtDepth depth maxDepth (reader.expect kind expected notEnd) := by
  unfold expect
  split
  · exact advance_endsAtDepth counts _
  · exact .error _

theorem identifier_endsAtDepth
    {expected : List TokenKind}
    (counts : reader.AtDepth depth maxDepth) :
    EndsAtDepth depth maxDepth (reader.identifier expected) :=
  (expect_endsAtDepth counts).bind fun _ named => .ok named

theorem operator_endsAtDepth
    (counts : reader.AtDepth depth maxDepth) :
    EndsAtDepth depth maxDepth reader.operator := by
  unfold operator
  split
  · exact .error _
  · exact (advance_endsAtDepth counts _).bind fun _ passed => .ok passed

theorem literal_endsAtDepth
    (counts : reader.AtDepth depth maxDepth) :
    EndsAtDepth depth maxDepth reader.literal := by
  unfold literal
  split
  · exact (advance_endsAtDepth counts _).bind fun _ passed => .ok passed
  · exact .error _

theorem comparison_endsAtDepth
    (counts : reader.AtDepth depth maxDepth) :
    EndsAtDepth depth maxDepth reader.comparison :=
  (identifier_endsAtDepth counts).bind fun _ named =>
    (operator_endsAtDepth named).bind fun _ compared =>
      (literal_endsAtDepth compared).bind fun _ whole => .ok whole

end Depth

/-- Reading leaves as many parentheses open as there were before. -/
def KeepsDepth
    {origin : Reader}
    {α : Type}
    (reader : Reader)
    (result : Except QueryError (Parsed origin α)) :
    Prop :=
  ∀ depth maxDepth,
    reader.AtDepth depth maxDepth → EndsAtDepth depth maxDepth result

/-- A group closes the parenthesis that it opens. -/
theorem atom_keepsDepth_of_group
    {reader : Reader}
    (opens : reader.current.kind = .leftParen)
    (roomy : ¬ reader.maxDepth ≤ reader.depth)
    (inside :
      ∀ opened : Parsed reader Token,
        KeepsDepth { opened.after with depth := opened.after.depth + 1 }
          (condition { opened.after with depth := opened.after.depth + 1 } 0)) :
    KeepsDepth reader reader.atom := by
  intro depth maxDepth counts
  rw [atom_eq_of_group opens roomy]
  refine (advance_endsAtDepth counts _).bind fun opened openedCounts => ?_
  refine (inside opened (depth + 1) maxDepth ?_).bind fun inner innerCounts => ?_
  · exact ⟨congrArg (· + 1) openedCounts.depth, openedCounts.maxDepth⟩
  · refine (expect_endsAtDepth innerCounts).bind fun closed closedCounts => .ok ?_
    exact ⟨congrArg (· - 1) closedCounts.depth, closedCounts.maxDepth⟩

/-- The three readers of a condition keep the count of open parentheses. -/
theorem keepsDepth_of_condition :
    (∀ reader : Reader, KeepsDepth reader reader.atom) ∧
      (∀ (reader : Reader) leastPower,
        KeepsDepth reader (reader.condition leastPower)) ∧
        ∀ origin leastPower left (reader : Reader) progress,
          KeepsDepth reader (operands origin leastPower left reader progress) := by
  apply condition_induction
  case tooDeep =>
    intro reader opens deep depth maxDepth counts
    rw [atom_eq_of_tooDeep opens deep]
    exact .error _
  case group =>
    intro reader opens roomy inside
    exact atom_keepsDepth_of_group opens roomy inside
  case notGroup =>
    intro reader notOpening depth maxDepth counts
    rw [atom_eq_of_not_group notOpening]
    split
    · exact comparison_endsAtDepth counts
    · exact .error _
  case condition =>
    intro reader leastPower operand more depth maxDepth counts
    rw [condition]
    exact (operand depth maxDepth counts).bind fun left => more left depth maxDepth
  case stop =>
    intro origin leastPower left reader progress leaves depth maxDepth counts
    rw [operands_of_leavesTo leaves]
    exact .ok counts
  case join =>
    intro origin leastPower left reader progress connective joins strong right more depth
      maxDepth counts
    rw [operands_of_joins joins strong]
    refine (advance_endsAtDepth counts _).bind fun passed passedCounts => ?_
    refine (right passed depth maxDepth passedCounts).bind fun operand => ?_
    exact more passed operand _ depth maxDepth

theorem moreNames_endsAtDepth
    {origin reader : Reader}
    {found : List Identifier}
    {progress : reader.pending < origin.pending}
    {depth maxDepth : Nat}
    (counts : reader.AtDepth depth maxDepth) :
    EndsAtDepth depth maxDepth (moreNames origin found reader progress) := by
  fun_induction moreNames origin found reader progress with
  | case1 found reader progress separated inductionHypothesis =>
      refine (advance_endsAtDepth counts _).bind fun comma commaCounts => ?_
      refine (identifier_endsAtDepth commaCounts).bind fun name nameCounts => ?_
      exact inductionHypothesis comma name nameCounts
  | case2 found reader progress notSeparated =>
      exact .ok counts

theorem selection_endsAtDepth
    {reader : Reader}
    {depth maxDepth : Nat}
    (counts : reader.AtDepth depth maxDepth) :
    EndsAtDepth depth maxDepth reader.selection := by
  unfold selection
  split
  · exact (advance_endsAtDepth counts _).bind fun _ passed => .ok passed
  · refine (identifier_endsAtDepth counts).bind fun first firstCounts => ?_
    exact (moreNames_endsAtDepth firstCounts).bind fun _ listed => .ok listed

end Reader

end SelectCypher
