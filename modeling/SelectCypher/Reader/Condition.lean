import SelectCypher.Query.Basic
import SelectCypher.Reader.Basic

namespace SelectCypher

/-!
# Reading a condition

A condition is read by binding powers.  Each connective has a power towards its
left and a higher one towards its right; a call with a least power folds only
connectives at least that strong and leaves weaker ones to its caller.  So `AND`
binds tighter than `OR`, and both group to the left.
-/

namespace Connective

/-- The strength with which a connective holds the operand on its left. -/
def leftPower : Connective → Nat
  | .or => 1
  | .and => 3

/-- The strength with which a connective holds the operand on its right. -/
def rightPower : Connective → Nat
  | .or => 2
  | .and => 4

end Connective

namespace TokenKind

theorem ne_endOfInput_of_connective?
    {kind : TokenKind}
    {connective : Connective}
    (joins : kind.connective? = some connective) :
    kind ≠ .endOfInput := by
  rintro rfl
  simp [connective?] at joins

theorem ne_endOfInput_of_operator?
    {kind : TokenKind}
    {operator : Operator}
    (compares : kind.operator? = some operator) :
    kind ≠ .endOfInput := by
  rintro rfl
  simp [operator?] at compares

theorem ne_endOfInput_of_isLiteral
    {kind : TokenKind}
    (literal : kind.isLiteral = true) :
    kind ≠ .endOfInput := by
  rintro rfl
  simp [isLiteral, literals] at literal

end TokenKind

/-- The value a literal token stands for. -/
def Literal.ofToken (token : Token) : Literal :=
  match token.kind with
  | .stringLiteral =>
      .string token.unquoted
  | .number =>
      .number token.text
  | .keyword .trueWord =>
      .bool true
  | .keyword .falseWord =>
      .bool false
  | _ =>
      .null

namespace Reader

/-- Read a name, or fail with the kinds expected at this place. -/
def identifier
    (reader : Reader)
    (expected : List TokenKind) :
    Except QueryError (Parsed reader Identifier) := do
  let name ← reader.expect .identifier expected
  return name.map fun token => ⟨token.text⟩

/-- Read the operator of a comparison. -/
def operator (reader : Reader) : Except QueryError (Parsed reader Operator) :=
  match compares : reader.current.kind.operator? with
  | none =>
      .error (reader.unexpected TokenKind.operators)
  | some operator => do
      let passed ←
        reader.advance (TokenKind.ne_endOfInput_of_operator? compares)
      return passed.map fun _ => operator

/-- Read the value of a comparison. -/
def literal (reader : Reader) : Except QueryError (Parsed reader Literal) :=
  if isValue : reader.current.kind.isLiteral = true then do
    let passed ← reader.advance (TokenKind.ne_endOfInput_of_isLiteral isValue)
    return passed.map .ofToken
  else
    .error (reader.unexpected TokenKind.literals)

/-- Read a column, an operator and a value. -/
def comparison (reader : Reader) : Except QueryError (Parsed reader Condition) := do
  let column ← reader.identifier [.identifier]
  let operator ← column.after.operator
  let value ← operator.after.literal
  let whole :=
    value.map fun literal => .comparison column.value operator.value literal
  return (whole.behind operator.progress).behind column.progress

mutual

/--
Read a comparison or a condition in parentheses.  A parenthesis that would be
nested deeper than the limit is an error.
-/
def atom (reader : Reader) : Except QueryError (Parsed reader Condition) :=
  if opens : reader.current.kind = .leftParen then
    if reader.maxDepth ≤ reader.depth then
      .error (.tooDeep reader.current.position reader.maxDepth)
    else do
      let opened ← reader.advance (by simp [opens])
      let inner ←
        { opened.after with depth := opened.after.depth + 1 }.condition 0
      let closed ←
        inner.after.expect .rightParen
          [.keyword .andWord, .keyword .orWord, .rightParen]
      return {
        value := inner.value
        after := { closed.after with depth := closed.after.depth - 1 }
        progress := by
          have first := opened.progress
          have second := inner.progress
          have third := closed.progress
          simp only [pending] at first second third ⊢
          omega }
  else if reader.current.kind = .identifier then
    reader.comparison
  else
    .error (reader.unexpected [.identifier, .leftParen])
termination_by 2 * reader.pending
decreasing_by
  have first := opened.progress
  simp only [pending] at first ⊢
  omega

/-- Read a condition and fold the connectives of at least a given power. -/
def condition
    (reader : Reader)
    (leastPower : Nat) :
    Except QueryError (Parsed reader Condition) := do
  let left ← reader.atom
  operands reader leastPower left.value left.after left.progress
termination_by 2 * reader.pending + 1
decreasing_by
  · omega
  · have first := left.progress
    omega

/-- Fold further operands into the condition read so far. -/
def operands
    (origin : Reader)
    (leastPower : Nat)
    (left : Condition)
    (reader : Reader)
    (progress : reader.pending < origin.pending) :
    Except QueryError (Parsed origin Condition) :=
  match joins : reader.current.kind.connective? with
  | none =>
      .ok { value := left, after := reader, progress := progress }
  | some connective =>
      if connective.leftPower < leastPower then
        .ok { value := left, after := reader, progress := progress }
      else do
        let passed ←
          reader.advance (TokenKind.ne_endOfInput_of_connective? joins)
        let right ← passed.after.condition connective.rightPower
        operands origin leastPower (.join connective left right.value) right.after
          (by
            have first := passed.progress
            have second := right.progress
            omega)
termination_by 2 * reader.pending
decreasing_by
  · have first := passed.progress
    omega
  · have first := passed.progress
    have second := right.progress
    omega

end

end Reader

end SelectCypher
