import Mathlib.Data.List.Induction
import SelectCypher.Proofs.Query.Reading
import SelectCypher.Proofs.Query.Row
import SelectCypher.Proofs.Token.Form

namespace SelectCypher

open Grammar

/-!
# Canonical text is read back

The canonical text of a well-formed query splits into the tokens of its row, and this
row derives the query: its parentheses are exactly those that the layers of the
grammar need.
-/

namespace Grammar

/-- How tightly the conditions of a layer bind at least. -/
def Layer.precedence : Layer → Nat
  | .disjunction => 1
  | .conjunction => 2
  | .operand => 3

/-- A disjunction is the loosest layer and an operand the tightest one. -/
theorem Layer.precedence_bounds (layer : Layer) :
    Layer.disjunction.precedence ≤ layer.precedence ∧
      layer.precedence ≤ Layer.operand.precedence := by
  cases layer <;> decide

/-- What forms a tighter layer forms every looser one. -/
theorem Forms.loosen
    {layer target : Layer}
    {tokens : List Token}
    {condition : Condition}
    (forms : Forms layer tokens condition)
    (looser : target.precedence ≤ layer.precedence) :
    Forms target tokens condition := by
  cases layer <;> cases target <;> simp [Layer.precedence] at looser
  case disjunction.disjunction | conjunction.conjunction | operand.operand =>
    exact forms
  case conjunction.disjunction =>
    exact .oneConjunction forms
  case operand.disjunction =>
    exact .oneConjunction (.oneOperand forms)
  case operand.conjunction =>
    exact .oneOperand forms

end Grammar

/-- The layer of a condition written without parentheses around it. -/
def Condition.layer : Condition → Layer
  | .comparison _ _ _ => .operand
  | .join .and _ _ => .conjunction
  | .join .or _ _ => .disjunction

theorem Condition.precedence_layer (condition : Condition) :
    condition.layer.precedence = condition.precedence := by
  rcases condition with _ | ⟨connective, left, right⟩
  · rfl
  · cases connective <;> rfl

/-- The layer that canonical text needs on the left of a connective. -/
def Connective.leftLayer : Connective → Layer
  | .and => .conjunction
  | .or => .disjunction

/-- The layer that canonical text needs on the right of a connective. -/
def Connective.rightLayer : Connective → Layer
  | .and => .operand
  | .or => .conjunction

theorem Connective.leftLayer_precedence (connective : Connective) :
    connective.leftLayer.precedence = connective.precedence := by
  cases connective <;> rfl

theorem Connective.rightLayer_precedence (connective : Connective) :
    connective.rightLayer.precedence = connective.precedence + 1 := by
  cases connective <;> rfl

/-- Operands of the layers that a connective needs form a condition of its layer. -/
theorem Grammar.Forms.join
    {connective : Connective}
    {before behind : List Token}
    {word : Token}
    {left right : Condition}
    (leftForms : Forms connective.leftLayer before left)
    (isWord : word.kind = .keyword connective.keyword)
    (rightForms : Forms connective.rightLayer behind right) :
    Forms (Condition.join connective left right).layer (before ++ word :: behind)
      (.join connective left right) := by
  cases connective with
  | and =>
      exact .and leftForms isWord rightForms
  | or =>
      exact .or leftForms isWord rightForms

/-! ## Rows of conditions -/

/-- The token that canonical text writes for a value stands for the value. -/
theorem Literal.denotes_canonical (value : Literal) :
    Denotes (.bare value.tokenKind value.canonical) value := by
  cases value with
  | string content =>
      have denotes : Denotes (.bare .stringLiteral (Text.quoted content)) _ :=
        .string rfl
      rwa [Token.bare, Token.unquoted_quoted] at denotes
  | number digits =>
      exact .number rfl
  | bool value =>
      cases value
      · exact .falsehood rfl
      · exact .truth rfl
  | null =>
      exact .null rfl

/-- A condition in the parentheses it needs forms the layer that needs them. -/
theorem Grammar.Forms.enclosed
    {layer target : Layer}
    {row : List Token}
    {condition : Condition}
    {needed : Bool}
    (forms : Forms layer row condition)
    (fits : needed = false → target.precedence ≤ layer.precedence) :
    Forms target (SelectCypher.enclosedRow needed row) condition := by
  cases needed with
  | false =>
      exact forms.loosen (fits rfl)
  | true =>
      have loose : Forms .disjunction row condition :=
        forms.loosen layer.precedence_bounds.1
      exact (Forms.group rfl loose rfl).loosen target.precedence_bounds.2

/-- The tokens of a condition's canonical text form it. -/
theorem Condition.forms_row (condition : Condition) :
    Forms condition.layer condition.row condition := by
  induction condition with
  | comparison column operator value =>
      exact .comparison rfl rfl value.denotes_canonical
  | join connective left right leftHypothesis rightHypothesis =>
      have leftForms :
          Forms connective.leftLayer
            (enclosedRow (left.precedence < connective.precedence) left.row) left := by
        refine leftHypothesis.enclosed fun notNeeded => ?_
        rw [connective.leftLayer_precedence, left.precedence_layer]
        exact Nat.le_of_not_lt (of_decide_eq_false notNeeded)
      have rightForms :
          Forms connective.rightLayer
            (enclosedRow (right.precedence ≤ connective.precedence) right.row)
            right := by
        refine rightHypothesis.enclosed fun notNeeded => ?_
        rw [connective.rightLayer_precedence, right.precedence_layer]
        exact Nat.lt_of_not_le (of_decide_eq_false notNeeded)
      exact leftForms.join rfl rightForms

/-! ## Rows of queries -/

theorem Grammar.lists_namesRow
    {names : List Identifier}
    (someNames : names ≠ []) :
    Lists (namesRow names) names := by
  induction names using List.reverseRec with
  | nil =>
      exact absurd rfl someNames
  | append_singleton before last inductionHypothesis =>
      by_cases noneBefore : before = []
      · subst before
        exact .one rfl
      · rw [namesRow_append noneBefore]
        exact .more (inductionHypothesis noneBefore) rfl rfl

theorem Selection.WellFormed.selects_row
    {selection : Selection}
    (wellFormed : selection.WellFormed) :
    Selects selection.row selection := by
  cases selection with
  | everything =>
      exact .everything rfl
  | columns names =>
      exact .columns (lists_namesRow wellFormed.1)

theorem Grammar.filters_filterRow (filter? : Option Condition) :
    Filters (filterRow filter?) filter? := by
  cases filter? with
  | none =>
      exact .absent
  | some condition =>
      exact .present rfl
        (condition.forms_row.loosen condition.layer.precedence_bounds.1)

/-- The row of a well-formed query is a sentence of the query. -/
theorem Query.WellFormed.sentence_row
    {query : Query}
    (wellFormed : query.WellFormed) :
    Sentence query.row query :=
  .query rfl wellFormed.selection.selects_row rfl rfl (filters_filterRow _) rfl

/-- So are the tokens of the row at any places. -/
theorem Query.WellFormed.sentence_of_row
    {query : Query}
    {tokens : List Token}
    (wellFormed : query.WellFormed)
    (isRow : tokens.map Token.unplaced = query.row) :
    Sentence tokens query := by
  apply wellFormed.sentence_row.of_sameTokens
  rw [SameTokens, ← isRow, List.map_map]
  rfl

/-- Canonical text is tokenized as a sentence of its query. -/
theorem Query.WellFormed.sentence_canonical
    {query : Query}
    (wellFormed : query.WellFormed) :
    ∃ tokens, tokenize query.canonical = .ok tokens ∧ Sentence tokens query := by
  obtain ⟨tokens, tokenized, isRow⟩ := wellFormed.tokenize_canonical
  exact ⟨tokens, tokenized, wellFormed.sentence_of_row isRow⟩

namespace Query

/--
Canonical text is read back as its query if its parentheses nest no deeper than
the limit.  Otherwise the first parenthesis that is nested one deeper is reported,
at the place where it stands in the text.
-/
theorem ofText_canonical
    {query : Query}
    (wellFormed : query.WellFormed)
    (maxDepth : Nat) :
    ∃ tokens,
      tokenize query.canonical = .ok tokens ∧
        (NestedWithin maxDepth tokens →
          Query.ofText query.canonical { maxDepth := maxDepth } = .ok query) ∧
        (¬ NestedWithin maxDepth tokens →
          ∃ before paren behind front rest,
            tokens = before ++ paren :: behind ∧
              FirstTooDeep maxDepth before paren ∧
              query.canonical.toList = front ++ '(' :: rest ∧
              paren.position = Position.start.after front ∧
              Query.ofText query.canonical { maxDepth := maxDepth } =
                .error (.tooDeep paren.position maxDepth)) := by
  obtain ⟨tokens, tokenized, sentence⟩ := wellFormed.sentence_canonical
  have splits := tokenize_eq_ok_iff.mp tokenized
  obtain ⟨-, sameTokens⟩ := tokenize_eq_ok_iff_stream.mp tokenized
  refine ⟨tokens, tokenized, ?_, ?_⟩
  · intro within
    exact ofText_eq_ok_iff.mpr ⟨rfl, tokens, tokenized, sentence, within⟩
  · intro tooDeep
    cases walked : Place.opening.walk maxDepth tokens with
    | ok reached =>
        exact absurd (Place.nestedWithin_of_walk walked) tooDeep
    | error failure =>
        obtain ⟨before, paren, behind, shape, first, cause⟩ :=
          Place.firstTooDeep_of_walk_eq_error sentence.path?_eq walked
        have notEnd : paren.kind ≠ .endOfInput := by
          simp [first.isOpening]
        obtain ⟨front, spelled, rest, located, spells, -, place⟩ :=
          splits.locate shape notEnd
        rw [first.isOpening] at spells
        have isParen := spells.eq_of_leftParen
        refine ⟨before, paren, behind, front, rest, shape, first, ?_, place, ?_⟩
        · rw [located, isParen, List.singleton_append]
        · rw [ofText_eq_error_iff, sameTokens, walked, cause]
          exact .inl rfl

/-- With no nesting allowed the parenthesis around the right operand is reported. -/
theorem ofText_canonical_enclosed :
    let query : Query :=
      { selection := .columns [⟨"a"⟩, ⟨"b"⟩]
        table := ⟨"t"⟩
        filter? :=
          some
            (.join .and (.comparison ⟨"a"⟩ .equal (.string "it's -- (so)"))
              (.join .or (.comparison ⟨"b"⟩ .less (.number "1.5"))
                (.comparison ⟨"c"⟩ .equal .null))) }
    query.WellFormed ∧
      ∃ tokens,
        tokenize query.canonical = .ok tokens ∧
          (NestedWithin 0 tokens →
            Query.ofText query.canonical { maxDepth := 0 } = .ok query) ∧
          (¬ NestedWithin 0 tokens →
            ∃ before paren behind front rest,
              tokens = before ++ paren :: behind ∧
                FirstTooDeep 0 before paren ∧
                query.canonical.toList = front ++ '(' :: rest ∧
                paren.position = Position.start.after front ∧
                Query.ofText query.canonical { maxDepth := 0 } =
                  .error (.tooDeep paren.position 0)) := by
  intro query
  have name :
      ∀ letter ∈ ['a', 'b', 'c', 't'],
        Identifier.WellFormed ⟨String.ofList [letter]⟩ := by
    intro letter member
    simp only [List.mem_cons, List.not_mem_nil, or_false] at member
    rcases member with rfl | rfl | rfl | rfl <;>
      exact ⟨⟨_, [], rfl, by decide, by simp⟩, by decide⟩
  have numeral : Text.IsNumeral ['1', '.', '5'] :=
    .inr ⟨['1'], ['5'], rfl, ⟨by simp, by simp⟩, by simp, by simp⟩
  have wellFormed : query.WellFormed :=
    { selection := ⟨by simp, by
        simpa using ⟨name 'a' (by simp), name 'b' (by simp)⟩⟩
      table := name 't' (by simp)
      filter? := by
        rintro condition ⟨rfl⟩
        exact ⟨⟨name 'a' (by simp), trivial⟩,
          ⟨name 'b' (by simp), numeral⟩, name 'c' (by simp), trivial⟩ }
  exact ⟨wellFormed, ofText_canonical wellFormed 0⟩

end Query

end SelectCypher
