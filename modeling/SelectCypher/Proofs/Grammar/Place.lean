import SelectCypher.Proofs.Grammar.Sentence
import SelectCypher.Query.Error
import SelectCypher.Token.Stream

namespace SelectCypher.Grammar

/-!
# Places in a query

Reading a query from the left, the kinds read so far lead to a place, and the
place alone decides which kinds may come next.  Inside a condition a place
counts the open parentheses.  Every sentence leads from the opening to the
closing place, and every place that is reached can still be led to the closing
one.
-/

/-- Where in a query a reader stands. -/
inductive Place
  | opening
  | selection
  | behindEverything
  | behindName
  | name
  | source
  | behindTable
  | operand (depth : Nat)
  | operator (depth : Nat)
  | value (depth : Nat)
  | behindOperand (depth : Nat)
  | closing
  deriving Repr, DecidableEq

namespace Place

/-- Number of parentheses open at a place. -/
def depth : Place → Nat
  | operand depth | operator depth | value depth | behindOperand depth =>
      depth
  | _ =>
      0

/-- The kinds that may come at a place, each with the place it leads to. -/
def exits : Place → List (TokenKind × Place)
  | opening =>
      [(.keyword .selectWord, selection)]
  | selection =>
      [(.asterisk, behindEverything), (.identifier, behindName)]
  | behindEverything =>
      [(.keyword .fromWord, source)]
  | behindName =>
      [(.comma, name), (.keyword .fromWord, source)]
  | name =>
      [(.identifier, behindName)]
  | source =>
      [(.identifier, behindTable)]
  | behindTable =>
      [(.keyword .whereWord, operand 0), (.endOfInput, closing)]
  | operand depth =>
      [(.identifier, operator depth), (.leftParen, operand (depth + 1))]
  | operator depth =>
      TokenKind.operators.map fun kind => (kind, value depth)
  | value depth =>
      TokenKind.literals.map fun kind => (kind, behindOperand depth)
  | behindOperand 0 =>
      [(.keyword .andWord, operand 0), (.keyword .orWord, operand 0),
        (.endOfInput, closing)]
  | behindOperand (depth + 1) =>
      [(.keyword .andWord, operand (depth + 1)),
        (.keyword .orWord, operand (depth + 1)),
        (.rightParen, behindOperand depth)]
  | closing =>
      []

/-- The kinds that may come at a place. -/
def expected (place : Place) : List TokenKind :=
  place.exits.map Prod.fst

/-- The place to which a kind leads from another, if it may come there. -/
def next?
    (place : Place)
    (kind : TokenKind) :
    Option Place :=
  (place.exits.find? (·.1 = kind)).map Prod.snd

/-- The place to which a row of kinds leads, if each may come where it stands. -/
def path?
    (place : Place)
    (kinds : List TokenKind) :
    Option Place :=
  kinds.foldlM next? place

/-- The expected kinds are exactly those that lead somewhere. -/
theorem mem_expected
    {place : Place}
    {kind : TokenKind} :
    kind ∈ place.expected ↔ (place.next? kind).isSome = true := by
  simp [expected, next?, List.find?_isSome, List.mem_map]

theorem next?_eq_none_iff
    {place : Place}
    {kind : TokenKind} :
    place.next? kind = none ↔ kind ∉ place.expected := by
  rw [mem_expected, Bool.not_eq_true, Option.isSome_eq_false_iff,
    Option.isNone_iff_eq_none]

/-- Where only one kind may come, every other one is blocked. -/
theorem blocked_of_only
    {place : Place}
    {only kind : TokenKind}
    (single : place.expected = [only])
    (different : kind ≠ only) :
    place.next? kind = none ∧ [only] = place.expected := by
  refine ⟨next?_eq_none_iff.mpr ?_, single.symm⟩
  rw [single]
  simpa using different

/-- No kind is listed twice. -/
theorem expected_nodup (place : Place) : place.expected.Nodup := by
  cases place with
  | behindOperand depth =>
      cases depth <;> simp [expected, exits]
  | _ =>
      simp [expected, exits, TokenKind.operators, TokenKind.literals,
        Operator.all]

theorem mem_exits_of_next?
    {place next : Place}
    {kind : TokenKind}
    (leads : place.next? kind = some next) :
    (kind, next) ∈ place.exits := by
  simp only [next?, Option.map_eq_some_iff] at leads
  obtain ⟨⟨listed, reached⟩, found, rfl⟩ := leads
  have same : listed = kind := by
    simpa using List.find?_some found
  subst same
  exact List.mem_of_find?_eq_some found

@[simp] theorem expected_operator (depth : Nat) :
    (operator depth).expected = TokenKind.operators :=
  rfl

@[simp] theorem expected_value (depth : Nat) :
    (value depth).expected = TokenKind.literals :=
  rfl

/-! The steps of a condition, by which paths are computed. -/

@[simp] theorem next?_operand_identifier (depth : Nat) :
    (operand depth).next? .identifier = some (operator depth) :=
  rfl

@[simp] theorem next?_operand_leftParen (depth : Nat) :
    (operand depth).next? .leftParen = some (operand (depth + 1)) :=
  rfl

@[simp] theorem next?_operator
    (depth : Nat)
    (comparison : Operator) :
    (operator depth).next? (.operator comparison) = some (value depth) := by
  cases comparison <;> rfl

theorem next?_value
    {kind : TokenKind}
    (depth : Nat)
    (literal : kind.isLiteral = true) :
    (value depth).next? kind = some (behindOperand depth) := by
  simp only [TokenKind.isLiteral, TokenKind.literals, List.contains_eq_mem,
    List.mem_cons, List.not_mem_nil, or_false, decide_eq_true_eq] at literal
  rcases literal with rfl | rfl | rfl | rfl | rfl <;> rfl

@[simp] theorem next?_behindOperand_and (depth : Nat) :
    (behindOperand depth).next? (.keyword .andWord) = some (operand depth) := by
  cases depth <;> rfl

@[simp] theorem next?_behindOperand_or (depth : Nat) :
    (behindOperand depth).next? (.keyword .orWord) = some (operand depth) := by
  cases depth <;> rfl

@[simp] theorem next?_behindOperand_rightParen (depth : Nat) :
    (behindOperand (depth + 1)).next? .rightParen = some (behindOperand depth) :=
  rfl

@[simp] theorem next?_behindOperand_endOfInput :
    (behindOperand 0).next? .endOfInput = some closing :=
  rfl

@[simp] theorem path?_nil (place : Place) : place.path? [] = some place :=
  rfl

@[simp] theorem path?_cons
    (place : Place)
    (kind : TokenKind)
    (kinds : List TokenKind) :
    place.path? (kind :: kinds) =
      (place.next? kind).bind fun next => next.path? kinds :=
  rfl

theorem path?_append
    (place : Place)
    (first second : List TokenKind) :
    place.path? (first ++ second) =
      (place.path? first).bind fun middle => middle.path? second := by
  simp [path?, List.foldlM_append]

end Place

/-! ## Sentences lead to the closing place -/

theorem Denotes.isLiteral
    {token : Token}
    {literal : Literal}
    (denotes : Denotes token literal) :
    token.kind.isLiteral = true := by
  cases denotes with
  | string kind | number kind | truth kind | falsehood kind | null kind =>
      simp [kind, TokenKind.isLiteral, TokenKind.literals]

/-- A condition leads from the place of an operand to the one behind it. -/
theorem Forms.path?_eq
    {layer : Layer}
    {tokens : List Token}
    {condition : Condition}
    (forms : Forms layer tokens condition)
    (depth : Nat) :
    (Place.operand depth).path? (tokens.map Token.kind) =
      some (.behindOperand depth) := by
  induction forms generalizing depth with
  | comparison column operator denotes =>
      simp [column, operator, Place.next?_value depth denotes.isLiteral]
  | group opening inner closing inductionHypothesis =>
      simp [Place.path?_append, opening, closing, inductionHypothesis]
  | oneOperand inner inductionHypothesis =>
      exact inductionHypothesis depth
  | oneConjunction inner inductionHypothesis =>
      exact inductionHypothesis depth
  | and left word right leftHypothesis rightHypothesis =>
      simp [Place.path?_append, word, leftHypothesis, rightHypothesis]
  | or left word right leftHypothesis rightHypothesis =>
      simp [Place.path?_append, word, leftHypothesis, rightHypothesis]

/-- A list of names leads from the place of a selection behind its last name. -/
theorem Lists.path?_eq
    {tokens : List Token}
    {names : List Identifier}
    (lists : Lists tokens names) :
    Place.selection.path? (tokens.map Token.kind) = some .behindName := by
  induction lists with
  | one name =>
      rw [List.map_singleton, name]
      rfl
  | more before comma name inductionHypothesis =>
      rw [List.map_append, Place.path?_append, inductionHypothesis]
      simp only [List.map_cons, List.map_nil, comma, name]
      rfl

/-- A filter and the end of input lead from behind the table to the closing place. -/
theorem Filters.path?_eq
    {tokens : List Token}
    {filter? : Option Condition}
    (filters : Filters tokens filter?) :
    Place.behindTable.path? (tokens.map Token.kind ++ [.endOfInput]) =
      some .closing := by
  cases filters with
  | absent =>
      rfl
  | present word forms =>
      rw [List.map_cons, word, List.cons_append, Place.path?_cons]
      simp only [show Place.behindTable.next? (.keyword .whereWord) =
        some (.operand 0) from rfl, Option.bind_some, Place.path?_append,
        forms.path?_eq]
      rfl

/-- A sentence leads from the opening to the closing place. -/
theorem Sentence.path?_eq
    {tokens : List Token}
    {query : Query}
    (sentence : Sentence tokens query) :
    Place.opening.path? (tokens.map Token.kind) = some .closing := by
  cases sentence with
  | @query select source table last selected filtered _ _ selectKind selects
      sourceKind tableKind filters lastKind =>
      -- Both kinds of selection end where only the table's keyword leads on.
      have behindSelection :
          ∃ place,
            Place.selection.path? (selected.map Token.kind) = some place ∧
              place.next? (.keyword .fromWord) = some .source := by
        cases selects with
        | everything asterisk =>
            exact ⟨.behindEverything, by rw [List.map_singleton, asterisk]; rfl,
              rfl⟩
        | columns lists =>
            exact ⟨.behindName, lists.path?_eq, rfl⟩
      obtain ⟨place, reached, leads⟩ := behindSelection
      have opening :
          Place.opening.next? (.keyword .selectWord) = some .selection :=
        rfl
      have named : Place.source.next? .identifier = some .behindTable :=
        rfl
      have behind := filters.path?_eq
      simpa [Place.path?_append, selectKind, sourceKind, tableKind, lastKind,
        opening, reached, leads, named] using behind

/-- What may begin a sentence leads somewhere. -/
theorem Viable.path?_isSome
    {tokens : List Token}
    (viable : Viable tokens) :
    ∃ place, Place.opening.path? (tokens.map Token.kind) = some place := by
  obtain ⟨continuation, query, sentence⟩ := viable
  have whole := sentence.path?_eq
  rw [List.map_append, Place.path?_append, Option.bind_eq_some_iff] at whole
  obtain ⟨place, reached, -⟩ := whole
  exact ⟨place, reached⟩

end SelectCypher.Grammar
