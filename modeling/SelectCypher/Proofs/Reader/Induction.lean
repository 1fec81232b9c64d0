import SelectCypher.Reader.Condition

namespace SelectCypher

/-!
# Induction along the readers of a condition

The readers `atom`, `condition` and `operands` call each other.  An equation says what
`atom` and `operands` do in each of their cases, so that no proof has to open them, and
`condition_induction` follows these cases: what each reader keeps if those it calls
keep it holds of all three.
-/

namespace Grammar

/-- A call with a least power leaves the connective it stops at to its caller. -/
def LeavesTo
    (leastPower : Nat)
    (kind : TokenKind) :
    Prop :=
  ∀ connective,
    kind.connective? = some connective →
    connective.leftPower < leastPower

theorem leavesTo_of_none
    {leastPower : Nat}
    {kind : TokenKind}
    (none : kind.connective? = none) :
    LeavesTo leastPower kind := by
  simp [LeavesTo, none]

theorem leavesTo_of_weak
    {leastPower : Nat}
    {kind : TokenKind}
    {connective : Connective}
    (joins : kind.connective? = some connective)
    (weak : connective.leftPower < leastPower) :
    LeavesTo leastPower kind := by
  intro other same
  obtain rfl : connective = other := by
    simpa [joins] using same
  exact weak

end Grammar

open Grammar

namespace Reader

/-! ## What the readers do -/

section Equations

variable {reader : Reader}

/-- A parenthesis beyond the limit is reported before anything behind it is looked at. -/
theorem atom_eq_of_tooDeep
    (opens : reader.current.kind = .leftParen)
    (deep : reader.maxDepth ≤ reader.depth) :
    reader.atom =
      .error (.tooDeep reader.current.position reader.maxDepth) := by
  rw [atom, dif_pos opens, if_pos deep]

/-- A group is a condition between two parentheses, inside which one more is open. -/
theorem atom_eq_of_group
    (opens : reader.current.kind = .leftParen)
    (roomy : ¬ reader.maxDepth ≤ reader.depth) :
    reader.atom =
      (do
        let opened ← reader.advance (by simp [opens])
        let inner ←
          { opened.after with depth := opened.after.depth + 1 }.condition 0
        let closed ←
          inner.after.expect .rightParen
            [.keyword .andWord, .keyword .orWord, .rightParen]
        return {
          value := inner.value
          after := { closed.after with depth := closed.after.depth - 1 }
          progress :=
            Nat.lt_trans closed.progress
              (Nat.lt_trans inner.progress opened.progress) }) := by
  rw [atom, dif_pos opens, if_neg roomy]

/-- An operand without parentheses is a comparison. -/
theorem atom_eq_of_not_group
    (notOpening : reader.current.kind ≠ .leftParen) :
    reader.atom =
      if reader.current.kind = .identifier then
        reader.comparison
      else
        .error (reader.unexpected [.identifier, .leftParen]) := by
  rw [atom, dif_neg notOpening]

variable {origin : Reader}
variable {leastPower : Nat}
variable {left : Condition}
variable {progress : reader.pending < origin.pending}

/-- Where no connective follows that a call folds, it stops. -/
theorem operands_of_leavesTo
    (leaves : LeavesTo leastPower reader.current.kind) :
    operands origin leastPower left reader progress =
      .ok { value := left, after := reader, progress := progress } := by
  rw [operands]
  split
  · rfl
  · rename_i connective joins
    rw [if_pos (leaves connective joins)]

/-- A connective strong enough is passed, and its right operand is folded. -/
theorem operands_of_joins
    {connective : Connective}
    (joins : reader.current.kind.connective? = some connective)
    (strong : ¬ connective.leftPower < leastPower) :
    operands origin leastPower left reader progress =
      (do
        let passed ←
          reader.advance (TokenKind.ne_endOfInput_of_connective? joins)
        let right ← passed.after.condition connective.rightPower
        operands origin leastPower (.join connective left right.value) right.after
          (Nat.lt_trans right.progress (Nat.lt_trans passed.progress progress))) := by
  rw [operands]
  split
  · rename_i none
    simp [none] at joins
  · rename_i found same
    obtain rfl : found = connective := by
      simpa [same] using joins
    rw [if_neg strong]

end Equations

/-! ## Induction -/

/--
Induction along the calls that `atom`, `condition` and `operands` make: each of them
may rely on what holds of the calls it makes, whatever these have read.
-/
theorem condition_induction
    {atomMotive : Reader → Prop}
    {conditionMotive : Reader → Nat → Prop}
    {operandsMotive :
      (origin : Reader) →
        Nat →
          Condition →
            (reader : Reader) →
              reader.pending < origin.pending →
                Prop}
    (tooDeep :
      ∀ reader : Reader,
        reader.current.kind = .leftParen →
        reader.maxDepth ≤ reader.depth →
        atomMotive reader)
    (group :
      ∀ reader : Reader,
        reader.current.kind = .leftParen →
        ¬ reader.maxDepth ≤ reader.depth →
        (∀ opened : Parsed reader Token,
          conditionMotive
            { opened.after with depth := opened.after.depth + 1 } 0) →
        atomMotive reader)
    (notGroup :
      ∀ reader : Reader,
        reader.current.kind ≠ .leftParen →
        atomMotive reader)
    (condition :
      ∀ (reader : Reader) leastPower,
        atomMotive reader →
        (∀ left : Parsed reader Condition,
          operandsMotive reader leastPower left.value left.after left.progress) →
        conditionMotive reader leastPower)
    (stop :
      ∀ origin leastPower left (reader : Reader) progress,
        LeavesTo leastPower reader.current.kind →
        operandsMotive origin leastPower left reader progress)
    (join :
      ∀ origin leastPower left (reader : Reader) progress connective,
        reader.current.kind.connective? = some connective →
        ¬ connective.leftPower < leastPower →
        (∀ passed : Parsed reader Token,
          conditionMotive passed.after connective.rightPower) →
        (∀ (passed : Parsed reader Token)
          (right : Parsed passed.after Condition)
          (behind : right.after.pending < origin.pending),
          operandsMotive origin leastPower (.join connective left right.value)
            right.after behind) →
        operandsMotive origin leastPower left reader progress) :
    (∀ reader, atomMotive reader) ∧
      (∀ reader leastPower, conditionMotive reader leastPower) ∧
        ∀ origin leastPower left reader progress,
          operandsMotive origin leastPower left reader progress := by
  apply Reader.atom.mutual_induct
  case case1 =>
    exact tooDeep
  case case2 =>
    exact group
  -- The name of a comparison, and any other token that begins no operand.
  case case3 | case4 =>
    intro reader notOpening _
    exact notGroup reader notOpening
  case case5 =>
    exact condition
  -- No connective at all, and one that is too weak.
  case case6 =>
    intro origin leastPower left reader progress none
    exact stop origin leastPower left reader progress (leavesTo_of_none none)
  case case7 =>
    intro origin leastPower left reader progress connective joins weak
    exact stop origin leastPower left reader progress (leavesTo_of_weak joins weak)
  case case8 =>
    intro origin leastPower left reader progress connective joins strong right more
    exact join origin leastPower left reader progress connective joins strong right
      fun passed operand _ => more passed operand

end Reader

end SelectCypher
