import SelectCypher.Proofs.Grammar.Sentence
import SelectCypher.Proofs.Text.Runs

namespace SelectCypher.Grammar

/-!
# Deleting matched parentheses

In a balanced row of tokens every parenthesis is matched inside the row.  A row
omits parentheses of another if it is left when matched pairs are deleted there,
one after the other.  What is left nests no deeper and has no more parentheses.
-/

/-- Rows of tokens whose parentheses match each other. -/
inductive Balanced : List Token → Prop
  | nothing :
      Balanced []
  | token
      {token : Token}
      {rest : List Token} :
      token.kind ≠ .leftParen →
      token.kind ≠ .rightParen →
      Balanced rest →
      Balanced (token :: rest)
  | group
      {opening closing : Token}
      {inside behind : List Token} :
      opening.kind = .leftParen →
      Balanced inside →
      closing.kind = .rightParen →
      Balanced behind →
      Balanced (opening :: inside ++ closing :: behind)

/-- What is left of a row of tokens when matched pairs of parentheses are deleted. -/
inductive Omits : List Token → List Token → Prop
  | nothing (tokens : List Token) :
      Omits tokens tokens
  | pair
      {opening closing : Token}
      {before inside behind fewer : List Token} :
      opening.kind = .leftParen →
      Balanced inside →
      closing.kind = .rightParen →
      Omits (before ++ inside ++ behind) fewer →
      Omits (before ++ opening :: inside ++ closing :: behind) fewer

/-- Number of opening parentheses in a row of tokens. -/
def openings (tokens : List Token) : Nat :=
  tokens.countP (·.kind = .leftParen)

/-- Number of closing parentheses in a row of tokens. -/
def closings (tokens : List Token) : Nat :=
  tokens.countP (·.kind = .rightParen)

namespace Balanced

theorem append
    {first second : List Token}
    (firstBalanced : Balanced first)
    (secondBalanced : Balanced second) :
    Balanced (first ++ second) := by
  induction firstBalanced with
  | nothing =>
      exact secondBalanced
  | token notOpening notClosing rest inductionHypothesis =>
      exact .token notOpening notClosing inductionHypothesis
  | @group opening closing inside behind opens insideBalanced closes behindBalanced
      insideHypothesis behindHypothesis =>
      rw [List.append_assoc, List.cons_append]
      exact .group opens insideBalanced closes behindHypothesis

/-- A row of one kind each that is no parenthesis. -/
theorem of_noParens
    {tokens : List Token}
    (noParens :
      ∀ token ∈ tokens, token.kind ≠ .leftParen ∧ token.kind ≠ .rightParen) :
    Balanced tokens := by
  induction tokens with
  | nil =>
      exact .nothing
  | cons token rest inductionHypothesis =>
      have isNone := noParens token (by simp)
      apply Balanced.token isNone.1 isNone.2
      apply inductionHypothesis
      intro other member
      exact noParens other (List.mem_cons_of_mem _ member)

/-- Balance depends on the kinds of tokens only. -/
theorem of_kinds
    {tokens others : List Token}
    (balanced : Balanced tokens)
    (same : others.map Token.kind = tokens.map Token.kind) :
    Balanced others := by
  induction balanced generalizing others with
  | nothing =>
      rw [List.map_eq_nil_iff.mp same]
      exact .nothing
  | token notOpening notClosing rest inductionHypothesis =>
      obtain ⟨other, later, rfl, sameKind, sameRest⟩ := List.map_eq_cons_iff.mp same
      rw [← sameKind] at notOpening notClosing
      exact .token notOpening notClosing (inductionHypothesis sameRest)
  | group opens insideBalanced closes behindBalanced insideHypothesis
      behindHypothesis =>
      rw [List.map_append] at same
      obtain ⟨front, back, rfl, sameFront, sameBack⟩ := List.map_eq_append_iff.mp same
      obtain ⟨opening, inside, rfl, sameOpening, sameInside⟩ :=
        List.map_eq_cons_iff.mp sameFront
      obtain ⟨closing, behind, rfl, sameClosing, sameBehind⟩ :=
        List.map_eq_cons_iff.mp sameBack
      apply Balanced.group
      · rw [sameOpening]
        exact opens
      · exact insideHypothesis sameInside
      · rw [sameClosing]
        exact closes
      · exact behindHypothesis sameBehind

end Balanced

/-- Without one pair of parentheses the others are nested no deeper. -/
theorem NestedWithin.of_pair
    {limit : Nat}
    {opening closing : Token}
    {before inside behind : List Token}
    (opens : opening.kind = .leftParen)
    (closes : closing.kind = .rightParen)
    (within :
      NestedWithin limit (before ++ opening :: inside ++ closing :: behind)) :
    NestedWithin limit (before ++ inside ++ behind) := by
  intro front paren rest shape isOpening
  rcases Text.append_eq_append_cons shape with
    ⟨insideRest, insideShape, -⟩ | ⟨middle, rfl, behindShape⟩
  · rcases Text.append_eq_append_cons insideShape with
      ⟨beforeRest, beforeShape, -⟩ | ⟨middle, rfl, innerShape⟩
    · -- The parenthesis stands before the pair.
      refine within front paren
        (beforeRest ++ opening :: inside ++ closing :: behind) ?_ isOpening
      simp [beforeShape]
    · -- It stands inside the pair.
      have deeper :=
        within (before ++ opening :: middle) paren (insideRest ++ closing :: behind)
          (by simp [innerShape]) isOpening
      have oneMore :
          unclosed (before ++ middle) ≤ unclosed (before ++ opening :: middle) := by
        simp only [unclosed, List.countP_append, List.countP_cons, opens,
          decide_true, ↓reduceIte, reduceCtorEq, decide_false, Bool.false_eq_true]
        omega
      exact Nat.lt_of_le_of_lt oneMore deeper
  · -- It stands behind the pair.
    have asDeep :=
      within (before ++ opening :: inside ++ closing :: middle) paren rest
        (by simp [behindShape]) isOpening
    have same :
        unclosed (before ++ inside ++ middle) =
          unclosed (before ++ opening :: inside ++ closing :: middle) := by
      simp only [unclosed, List.countP_append, List.countP_cons, opens, closes,
        decide_true, ↓reduceIte, reduceCtorEq, decide_false, Bool.false_eq_true]
      omega
    rw [same]
    exact asDeep

namespace Omits

variable {tokens fewer : List Token}

theorem trans
    {fewest : List Token}
    (earlier : Omits tokens fewer)
    (later : Omits fewer fewest) :
    Omits tokens fewest := by
  induction earlier with
  | nothing tokens =>
      exact later
  | pair opens balanced closes rest inductionHypothesis =>
      exact .pair opens balanced closes (inductionHypothesis later)

/-- Pairs deleted in a part of a row are deleted in the row. -/
theorem within
    (before behind : List Token)
    (omits : Omits tokens fewer) :
    Omits (before ++ tokens ++ behind) (before ++ fewer ++ behind) := by
  induction omits with
  | nothing tokens =>
      exact .nothing _
  | @pair opening closing front inside rest fewer opens balanced closes omits
      inductionHypothesis =>
      have shape :
          before ++ (front ++ opening :: inside ++ closing :: rest) ++ behind =
            (before ++ front) ++ opening :: inside ++ closing :: (rest ++ behind) := by
        simp
      rw [shape]
      apply Omits.pair opens balanced closes
      simpa using inductionHypothesis

theorem append
    {others fewerOthers : List Token}
    (omits : Omits tokens fewer)
    (otherOmits : Omits others fewerOthers) :
    Omits (tokens ++ others) (fewer ++ fewerOthers) := by
  have front := omits.within [] others
  have back := otherOmits.within fewer []
  simp only [List.nil_append, List.append_nil] at front back
  exact front.trans back

/-- The outermost parentheses of a row are deleted. -/
theorem unwrapped
    {opening closing : Token}
    (opens : opening.kind = .leftParen)
    (balanced : Balanced tokens)
    (closes : closing.kind = .rightParen) :
    Omits (opening :: tokens ++ [closing]) tokens := by
  have deleted : Omits ([] ++ tokens ++ []) tokens := by
    rw [List.nil_append, List.append_nil]
    exact .nothing tokens
  exact Omits.pair opens balanced closes deleted

/-- What is left nests no deeper. -/
theorem nestedWithin
    {limit : Nat}
    (omits : Omits tokens fewer)
    (nested : NestedWithin limit tokens) :
    NestedWithin limit fewer := by
  induction omits with
  | nothing tokens =>
      exact nested
  | pair opens balanced closes omits inductionHypothesis =>
      apply inductionHypothesis
      exact nested.of_pair opens closes

/-- What is left has no more parentheses. -/
theorem openings_le
    (omits : Omits tokens fewer) :
    openings fewer ≤ openings tokens := by
  induction omits with
  | nothing tokens =>
      exact Nat.le_refl _
  | pair opens balanced closes omits inductionHypothesis =>
      apply Nat.le_trans inductionHypothesis
      simp only [openings, List.countP_append, List.countP_cons]
      omega

end Omits

end SelectCypher.Grammar
