import SelectCypher.Proofs.Reader.Course
import SelectCypher.Proofs.Reader.Induction

namespace SelectCypher

open Grammar

/-!
# Reading conditions is sound

Whatever the tokens, a condition is read along the places of the grammar, and the
tokens that were passed form it.  A call with a least power reads one layer of
the grammar; what it has folded so far is described by `Folded`, the invariant of
the loop.
-/

namespace TokenKind

theorem connective?_eq_some_iff
    {kind : TokenKind}
    {connective : Connective} :
    kind.connective? = some connective ↔
      match connective with
      | .and => kind = .keyword .andWord
      | .or => kind = .keyword .orWord := by
  unfold connective?
  cases connective <;> split <;> simp_all

theorem operator?_eq_some_iff
    {kind : TokenKind}
    {comparison : Operator} :
    kind.operator? = some comparison ↔ kind = .operator comparison := by
  unfold operator?
  split <;> simp_all

theorem operator?_eq_none_iff {kind : TokenKind} :
    kind.operator? = none ↔ kind ∉ operators := by
  rcases kind with _ | comparison | _ | _ | _ | _ | _ | _ | _ | _
  case operator =>
    cases comparison <;> simp [operator?, operators, Operator.all]
  all_goals simp [operator?, operators]

end TokenKind

namespace Grammar

/-- The layer that a call with a least power reads. -/
def Layer.ofPower (leastPower : Nat) : Layer :=
  if leastPower ≤ 1 then
    .disjunction
  else if leastPower ≤ 3 then
    .conjunction
  else
    .operand

/--
What a call with a least power has folded when it sees a kind: an operand, or a
conjunction if it folds `AND`, or a disjunction if it folds `OR` too, in which
case no `AND` can follow.
-/
inductive Folded
    (leastPower : Nat)
    (tokens : List Token)
    (condition : Condition)
    (kind : TokenKind) :
    Prop
  | operand :
      Forms .operand tokens condition →
      Folded leastPower tokens condition kind
  | conjunction :
      leastPower ≤ 3 →
      Forms .conjunction tokens condition →
      Folded leastPower tokens condition kind
  | disjunction :
      leastPower ≤ 1 →
      Forms .disjunction tokens condition →
      kind ≠ .keyword .andWord →
      Folded leastPower tokens condition kind

/-- What has been folded forms the layer that the call reads. -/
theorem Folded.forms
    {leastPower : Nat}
    {tokens : List Token}
    {condition : Condition}
    {kind : TokenKind}
    (folded : Folded leastPower tokens condition kind) :
    Forms (.ofPower leastPower) tokens condition := by
  unfold Layer.ofPower
  cases folded with
  | operand forms =>
      split
      · exact .oneConjunction (.oneOperand forms)
      · split
        · exact .oneOperand forms
        · exact forms
  | conjunction folds forms =>
      split
      · exact .oneConjunction forms
      · exact forms
  | disjunction folds forms =>
      rw [if_pos folds]
      exact forms

/-- Folding one more operand keeps what has been folded in shape. -/
theorem Folded.join
    {leastPower : Nat}
    {before behind : List Token}
    {word : Token}
    {connective : Connective}
    {left right : Condition}
    {kind : TokenKind}
    (folded : Folded leastPower before left word.kind)
    (joins : word.kind.connective? = some connective)
    (strong : ¬ connective.leftPower < leastPower)
    (forms : Forms (.ofPower connective.rightPower) behind right)
    (leaves : LeavesTo connective.rightPower kind) :
    Folded leastPower (before ++ word :: behind) (.join connective left right)
      kind := by
  rw [TokenKind.connective?_eq_some_iff] at joins
  cases connective with
  | or =>
      have folds : leastPower ≤ 1 := Nat.le_of_not_lt strong
      have leftForms := folded.forms
      rw [Layer.ofPower, if_pos folds] at leftForms
      refine .disjunction folds (.or leftForms joins forms) ?_
      rintro rfl
      have weak := leaves .and rfl
      simp [Connective.leftPower, Connective.rightPower] at weak
  | and =>
      have folds : leastPower ≤ 3 := Nat.le_of_not_lt strong
      refine .conjunction folds (.and ?_ joins forms)
      cases folded with
      | operand forms =>
          exact .oneOperand forms
      | conjunction _ forms =>
          exact forms
      | disjunction _ _ noAnd =>
          exact absurd joins noAnd

/-- A call that folds every connective stops at none of them. -/
theorem LeavesTo.not_connective
    {kind : TokenKind}
    (leaves : LeavesTo 0 kind) :
    kind ≠ .keyword .andWord ∧ kind ≠ .keyword .orWord := by
  refine ⟨?_, ?_⟩
  · rintro rfl
    exact Nat.not_lt_zero _ (leaves .and rfl)
  · rintro rfl
    exact Nat.not_lt_zero _ (leaves .or rfl)

theorem denotes_ofToken
    {token : Token}
    (literal : token.kind.isLiteral = true) :
    Denotes token (.ofToken token) := by
  simp only [TokenKind.isLiteral, TokenKind.literals, List.contains_eq_mem,
    List.mem_cons, List.not_mem_nil, or_false, decide_eq_true_eq] at literal
  unfold Literal.ofToken
  rcases literal with kind | kind | kind | kind | kind <;> rw [kind]
  · exact .string kind
  · exact .number kind
  · exact .truth kind
  · exact .falsehood kind
  · exact .null kind

end Grammar

namespace Reader

/-- A name is read where it may stand and nothing else that is under view may. -/
theorem identifier_follows
    {reader : Reader}
    {place next : Place}
    {expected : List TokenKind}
    (closed : reader.stream.Closed)
    (leads : place.next? .identifier = some next)
    (others :
      reader.current.kind ≠ .identifier →
      place.next? reader.current.kind = none ∧ expected = place.expected) :
    Follows reader place (fun _ => next)
      (fun passed name after =>
        passed = [reader.current] ∧ name = ⟨reader.current.text⟩ ∧
          reader.current.kind = .identifier ∧ after.depth = reader.depth)
      (reader.identifier expected) := by
  unfold Reader.identifier
  refine Follows.bind closed
    (Follows.expect closed leads (by simp) others) ?_
  rintro parsed passed - - ⟨rfl, same, kind, depth⟩
  exact Follows.ok (.refl _) rfl
    ⟨by simp, by simp [Parsed.map, same], same ▸ kind, depth⟩

theorem operator_follows
    {reader : Reader}
    {depth : Nat}
    (closed : reader.stream.Closed) :
    Follows reader (.operator depth) (fun _ => .value depth)
      (fun passed comparison after =>
        passed = [reader.current] ∧
          reader.current.kind = .operator comparison ∧
          after.depth = reader.depth)
      reader.operator := by
  unfold Reader.operator
  split
  · rename_i none
    refine Follows.unexpected ?_ (by simp)
    rw [Place.next?_eq_none_iff, Place.expected_operator]
    exact TokenKind.operator?_eq_none_iff.mp none
  · rename_i comparison compares
    have kind := TokenKind.operator?_eq_some_iff.mp compares
    have steps :
        (Place.operator depth).step reader.maxDepth reader.current =
          .ok (.value depth) := by
      simp [Place.step_eq_ok_iff, kind]
    refine Follows.bind closed (Follows.advance closed steps) ?_
    rintro parsed passed - - ⟨rfl, -, sameDepth⟩
    exact Follows.ok (.refl _) rfl ⟨by simp, by simp [Parsed.map, kind], sameDepth⟩

theorem literal_follows
    {reader : Reader}
    {depth : Nat}
    (closed : reader.stream.Closed) :
    Follows reader (.value depth) (fun _ => .behindOperand depth)
      (fun passed literal after =>
        passed = [reader.current] ∧ Denotes reader.current literal ∧
          after.depth = reader.depth)
      reader.literal := by
  unfold Reader.literal
  split
  · rename_i isLiteral
    have steps :
        (Place.value depth).step reader.maxDepth reader.current =
          .ok (.behindOperand depth) := by
      rw [Place.step_eq_ok_iff]
      refine ⟨Place.next?_value depth isLiteral, ?_⟩
      intro isOpening
      simp [isOpening, TokenKind.isLiteral, TokenKind.literals] at isLiteral
    refine Follows.bind closed (Follows.advance closed steps) ?_
    rintro parsed passed - - ⟨rfl, same, sameDepth⟩
    refine Follows.ok (.refl _) rfl ⟨by simp, ?_, sameDepth⟩
    simpa [Parsed.map, same] using denotes_ofToken isLiteral
  · rename_i notLiteral
    refine Follows.unexpected ?_ (by simp)
    rw [Place.next?_eq_none_iff, Place.expected_value]
    simpa [TokenKind.isLiteral] using notLiteral

theorem comparison_follows
    {reader : Reader}
    {depth : Nat}
    (closed : reader.stream.Closed)
    (named : reader.current.kind = .identifier) :
    Follows reader (.operand depth) (fun _ => .behindOperand depth)
      (fun passed condition after =>
        Forms .operand passed condition ∧ after.depth = reader.depth)
      reader.comparison := by
  unfold Reader.comparison
  refine Follows.bind closed
    (identifier_follows closed (Place.next?_operand_identifier depth)
      (absurd named)) ?_
  rintro column passed closedColumn - ⟨rfl, columnName, -, columnDepth⟩
  refine Follows.bind closedColumn (operator_follows closedColumn) ?_
  rintro operator passed closedOperator - ⟨rfl, operatorKind, operatorDepth⟩
  refine Follows.bind closedOperator (literal_follows closedOperator) ?_
  rintro value passed - - ⟨rfl, denotes, valueDepth⟩
  refine Follows.ok (.refl _) rfl ⟨?_, ?_⟩
  · simpa [Parsed.map, Parsed.behind, columnName] using
      Forms.comparison named operatorKind denotes
  · exact valueDepth.trans (operatorDepth.trans columnDepth)

/-- A parenthesis that may still be opened leads inside it. -/
theorem step_of_group
    {reader : Reader}
    (opens : reader.current.kind = .leftParen)
    (roomy : ¬ reader.maxDepth ≤ reader.depth) :
    (Place.operand reader.depth).step reader.maxDepth reader.current =
      .ok (.operand (reader.depth + 1)) := by
  rw [Place.step_eq_ok_iff, opens]
  exact ⟨rfl, fun _ => Nat.lt_of_not_le roomy⟩

/-- A connective leads from behind one operand to the next. -/
theorem step_of_connective
    {reader : Reader}
    {connective : Connective}
    (joins : reader.current.kind.connective? = some connective) :
    (Place.behindOperand reader.depth).step reader.maxDepth reader.current =
      .ok (.operand reader.depth) := by
  rw [Place.step_eq_ok_iff]
  refine ⟨?_, fun isOpening => ?_⟩
  · rw [TokenKind.connective?_eq_some_iff] at joins
    cases connective <;> simp [joins]
  · simp [isOpening, TokenKind.connective?] at joins

/-- A parenthesis is closed behind a condition that has folded every connective. -/
theorem closing_follows
    {reader : Reader}
    {depth : Nat}
    (closed : reader.stream.Closed)
    (leaves : LeavesTo 0 reader.current.kind) :
    Follows reader (.behindOperand (depth + 1)) (fun _ => .behindOperand depth)
      (fun passed token after =>
        passed = [reader.current] ∧ token = reader.current ∧
          token.kind = .rightParen ∧ after.depth = reader.depth)
      (reader.expect .rightParen
        [.keyword .andWord, .keyword .orWord, .rightParen]) := by
  apply Follows.expect closed (Place.next?_behindOperand_rightParen depth) (by simp)
  intro notClosing
  obtain ⟨notAnd, notOr⟩ := leaves.not_connective
  refine ⟨?_, rfl⟩
  rw [Place.next?_eq_none_iff]
  simp [Place.expected, Place.exits, notAnd, notOr, notClosing]

/-- What `atom` does, as the induction over the three readers needs it. -/
def AtomFollows (reader : Reader) : Prop :=
  ∀ depth,
    reader.depth = depth →
    reader.stream.Closed →
    Follows reader (.operand depth) (fun _ => .behindOperand depth)
      (fun passed condition after =>
        Forms .operand passed condition ∧ after.depth = depth)
      reader.atom

/-- What `condition` does: it reads the layer of its least power. -/
def ConditionFollows
    (reader : Reader)
    (leastPower : Nat) :
    Prop :=
  ∀ depth,
    reader.depth = depth →
    reader.stream.Closed →
    Follows reader (.operand depth) (fun _ => .behindOperand depth)
      (fun passed condition after =>
        Forms (.ofPower leastPower) passed condition ∧ after.depth = depth ∧
          LeavesTo leastPower after.current.kind)
      (reader.condition leastPower)

/-- What `operands` does behind tokens that it has folded. -/
def OperandsFollow
    (origin : Reader)
    (leastPower : Nat)
    (left : Condition)
    (reader : Reader)
    (progress : reader.pending < origin.pending) :
    Prop :=
  ∀ depth before,
    reader.depth = depth →
    reader.stream.Closed →
    Folded leastPower before left reader.current.kind →
    Follows reader (.behindOperand depth) (fun _ => .behindOperand depth)
      (fun passed condition after =>
        Forms (.ofPower leastPower) (before ++ passed) condition ∧
          after.depth = depth ∧ LeavesTo leastPower after.current.kind)
      (operands origin leastPower left reader progress)

theorem atomFollows_of_group
    {reader : Reader}
    (opens : reader.current.kind = .leftParen)
    (roomy : ¬ reader.maxDepth ≤ reader.depth)
    (inside :
      ∀ opened : Parsed reader Token,
        ConditionFollows
          { opened.after with depth := opened.after.depth + 1 } 0) :
    AtomFollows reader := by
  rintro depth rfl closed
  rw [atom_eq_of_group opens roomy]
  refine Follows.bind closed (Follows.advance closed (step_of_group opens roomy)) ?_
  rintro opened passed closedInside - ⟨rfl, -, openedDepth⟩
  have inner :=
    inside opened (reader.depth + 1) (by simp [openedDepth]) closedInside
  refine Follows.bind closedInside (Follows.of_withDepth inner) ?_
  rintro condition passed closedBehind - ⟨forms, innerDepth, leaves⟩
  refine Follows.bind closedBehind (closing_follows closedBehind leaves) ?_
  rintro closing passed - - ⟨rfl, same, closes, closingDepth⟩
  refine Follows.ok ⟨rfl, rfl, rfl⟩ rfl ⟨?_, ?_⟩
  · simpa using Forms.group opens forms (same ▸ closes)
  · simp [closingDepth, innerDepth]

theorem atomFollows_of_not_group
    {reader : Reader}
    (notOpening : reader.current.kind ≠ .leftParen) :
    AtomFollows reader := by
  rintro depth rfl closed
  rw [atom_eq_of_not_group notOpening]
  split
  · rename_i named
    exact comparison_follows closed named
  · rename_i notNamed
    refine Follows.unexpected ?_ rfl
    rw [Place.next?_eq_none_iff]
    simp [Place.expected, Place.exits, notOpening, notNamed]

theorem atomFollows_of_tooDeep
    {reader : Reader}
    (opens : reader.current.kind = .leftParen)
    (deep : reader.maxDepth ≤ reader.depth) :
    AtomFollows reader := by
  rintro depth rfl closed
  rw [atom_eq_of_tooDeep opens deep]
  have stepped :
      (Place.operand reader.depth).step reader.maxDepth reader.current =
        .error (.tooDeep reader.current.position reader.maxDepth) := by
    simp [Place.step, opens, Place.depth, deep]
  simp only [Follows, Place.verdict, stream, tokens, Place.walk_cons, stepped]
  rfl

/-- An operand and what is folded behind it make the condition. -/
theorem conditionFollows_of_atom
    {reader : Reader}
    {leastPower : Nat}
    (operand : AtomFollows reader)
    (more :
      ∀ left : Parsed reader Condition,
        OperandsFollow reader leastPower left.value left.after left.progress) :
    ConditionFollows reader leastPower := by
  rintro depth sameDepth closed
  rw [Reader.condition]
  refine Follows.bind closed (operand depth sameDepth closed) ?_
  rintro left passed closedBehind - ⟨forms, leftDepth⟩
  exact more left depth passed leftDepth closedBehind (.operand forms)

/-- Where the call stops, what has been folded is its result. -/
theorem operandsFollow_of_stop
    {origin reader : Reader}
    {leastPower : Nat}
    {left : Condition}
    {progress : reader.pending < origin.pending}
    (leaves : LeavesTo leastPower reader.current.kind) :
    OperandsFollow origin leastPower left reader progress := by
  rintro depth before sameDepth closed folded
  rw [operands_of_leavesTo leaves]
  refine Follows.ok (.refl reader) rfl ⟨?_, sameDepth, leaves⟩
  simpa using folded.forms

/-- A connective strong enough is folded with the operand behind it. -/
theorem operandsFollow_of_join
    {origin reader : Reader}
    {leastPower : Nat}
    {left : Condition}
    {progress : reader.pending < origin.pending}
    {connective : Connective}
    (joins : reader.current.kind.connective? = some connective)
    (strong : ¬ connective.leftPower < leastPower)
    (right :
      ∀ passed : Parsed reader Token,
        ConditionFollows passed.after connective.rightPower)
    (more :
      ∀ (passed : Parsed reader Token)
        (right : Parsed passed.after Condition)
        (behind : right.after.pending < origin.pending),
        OperandsFollow origin leastPower (.join connective left right.value)
          right.after behind) :
    OperandsFollow origin leastPower left reader progress := by
  rintro depth before rfl closed folded
  rw [operands_of_joins joins strong]
  refine Follows.bind closed (Follows.advance closed (step_of_connective joins)) ?_
  rintro passed - closedRight - ⟨rfl, -, passedDepth⟩
  refine Follows.bind closedRight
    (right passed reader.depth passedDepth closedRight) ?_
  rintro operand behind closedBehind - ⟨forms, rightDepth, leaves⟩
  have brought : operand.after.pending < origin.pending :=
    Nat.lt_trans operand.progress (Nat.lt_trans passed.progress progress)
  have rest :=
    more passed operand brought reader.depth _ rightDepth closedBehind
      (folded.join joins strong forms leaves)
  simpa using rest

/-- The three readers of a condition do what the grammar says of their layers. -/
theorem follows_of_condition :
    (∀ reader, AtomFollows reader) ∧
      (∀ reader leastPower, ConditionFollows reader leastPower) ∧
        ∀ origin leastPower left reader progress,
          OperandsFollow origin leastPower left reader progress := by
  apply condition_induction
  case tooDeep =>
    intro reader opens deep
    exact atomFollows_of_tooDeep opens deep
  case group =>
    intro reader opens roomy inside
    exact atomFollows_of_group opens roomy inside
  case notGroup =>
    intro reader notOpening
    exact atomFollows_of_not_group notOpening
  case condition =>
    intro reader leastPower operand more
    exact conditionFollows_of_atom operand more
  case stop =>
    intro origin leastPower left reader progress leaves
    exact operandsFollow_of_stop leaves
  case join =>
    intro origin leastPower left reader progress connective joins strong right more
    exact operandsFollow_of_join joins strong right more

/-- Reading a condition: the row of tokens passed forms it at the call's layer. -/
theorem condition_follows
    {reader : Reader}
    (leastPower : Nat)
    (closed : reader.stream.Closed) :
    Follows reader (.operand reader.depth) (fun _ => .behindOperand reader.depth)
      (fun passed condition after =>
        Forms (.ofPower leastPower) passed condition ∧
          after.depth = reader.depth ∧ LeavesTo leastPower after.current.kind)
      (reader.condition leastPower) :=
  follows_of_condition.2.1 reader leastPower reader.depth rfl closed

end Reader

end SelectCypher
