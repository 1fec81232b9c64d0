import SelectCypher.Proofs.Grammar.Placement
import SelectCypher.Proofs.Text.Blank
import SelectCypher.Proofs.Token.Stream

namespace SelectCypher

open Lexeme

/-!
# The tokens of trimmed text

White space around a text that splits into tokens is no part of any token: what
stands before the first token is layout, and what stands behind the last one is
layout or runs on a line comment.  So the trimmed text has the same tokens, though
they may stand elsewhere.
-/

namespace Splits

/-- A text has the same tokens wherever it begins. -/
theorem moved
    {position : Position}
    {text : List Char}
    {tokens : List Token}
    (splits : Splits position text tokens)
    (target : Position) :
    ∃ others, Splits target text others ∧ SameTokens others tokens := by
  induction splits generalizing target with
  | finished layout =>
      exact ⟨_, .finished layout, rfl⟩
  | @token position gap spelled rest kind tokens layout spells ends splits
      inductionHypothesis =>
      rcases inductionHypothesis (target.after (gap ++ spelled)) with
        ⟨others, otherSplits, same⟩
      exact ⟨_, .token layout spells ends otherSplits, same.cons⟩

/-- White space in front of tokens is layout. -/
theorem of_blank
    {position : Position}
    {blank : Char}
    {rest : List Char}
    {tokens : List Token}
    (isBlank : Text.isBlank blank = true)
    (splits : Splits position (blank :: rest) tokens) :
    Splits (position.advance blank) rest tokens := by
  generalize shape : blank :: rest = text at splits
  cases splits with
  | finished layout =>
      subst shape
      exact .finished (Layout.lead_of_blank isBlank layout)
  | @token _ gap spelled behind kind tokens layout spells ends splits =>
      cases gap with
      | nil =>
          rcases spells.ends with ⟨⟨first, later, rfl, opens⟩, -⟩
          simp only [List.nil_append, List.cons_append, List.cons.injEq] at shape
          rw [← shape.1, opensLexeme, isBlank] at opens
          cases opens
      | cons first more =>
          simp only [List.cons_append, List.cons.injEq] at shape
          rcases shape with ⟨rfl, rfl⟩
          exact .token (Layout.lead_of_blank isBlank layout) spells ends splits

/-- White space in front of a text moves its tokens. -/
theorem of_blanks
    {position : Position}
    {blanks text : List Char}
    {tokens : List Token}
    (blank : ∀ character ∈ blanks, Text.isBlank character = true)
    (splits : Splits position (blanks ++ text) tokens) :
    Splits (position.after blanks) text tokens := by
  induction blanks generalizing position with
  | nil =>
      exact splits
  | cons first more inductionHypothesis =>
      have rest := splits.of_blank (blank first (by simp))
      apply inductionHypothesis
      · intro character member
        exact blank character (by simp [member])
      · exact rest

/-- A token in front of white space ends before it. -/
theorem exists_inside
    {kind : TokenKind}
    {spelled rest inside tail : List Char}
    (spells : Spells kind spelled)
    (blank : ∀ character ∈ tail, Text.isBlank character = true)
    (shape : spelled ++ rest = inside ++ tail) :
    ∃ later, inside = spelled ++ later ∧ rest = later ++ tail := by
  rcases List.append_eq_append_iff.mp shape with
    ⟨later, insideShape, restShape⟩ | ⟨surplus, spelledShape, tailShape⟩
  · exact ⟨later, insideShape, restShape⟩
  · rcases List.eq_nil_or_concat surplus with rfl | ⟨front, final, rfl⟩
    · refine ⟨[], ?_, ?_⟩
      · simpa using spelledShape.symm
      · simpa using tailShape.symm
    · -- The last character of a token is not white space.
      rcases spells.ends with ⟨-, before, last, ending, notBlank⟩
      have finalBlank : Text.isBlank final = true := by
        apply blank
        simp [tailShape]
      have sameEnd : inside ++ front ++ [final] = before ++ [last] := by
        rw [← ending, spelledShape, List.concat_eq_append, List.append_assoc]
      rcases List.append_inj' sameEnd rfl with ⟨-, same⟩
      simp only [List.cons.injEq, and_true] at same
      rw [← same, finalBlank] at notBlank
      cases notBlank

/-- White space behind a text belongs to none of its tokens. -/
theorem cut
    {position : Position}
    {text tail : List Char}
    {tokens : List Token}
    (blank : ∀ character ∈ tail, Text.isBlank character = true)
    (splits : Splits position (text ++ tail) tokens) :
    ∃ others, Splits position text others ∧ SameTokens others tokens := by
  generalize shape : text ++ tail = whole at splits
  induction splits generalizing text with
  | finished layout =>
      rw [← shape] at layout
      have cutLayout := Layout.lead_cut blank layout
      rw [List.length_append, Nat.min_eq_right (Nat.le_add_right _ _)] at cutLayout
      exact ⟨_, .finished cutLayout, rfl⟩
  | @token position gap spelled rest kind tokens layout spells ends splits
      inductionHypothesis =>
      rw [← shape] at layout
      have cutLayout := Layout.lead_cut blank layout
      rcases List.append_eq_append_iff.mp shape with
        ⟨more, -, tailShape⟩ | ⟨inside, textShape, behindShape⟩
      · -- The token would begin inside the white space.
        rcases spells.ends with ⟨⟨first, later, rfl, opens⟩, -⟩
        have firstBlank : Text.isBlank first = true := by
          apply blank
          simp [tailShape]
        rw [opensLexeme, firstBlank] at opens
        cases opens
      · rcases exists_inside spells blank behindShape with ⟨later, rfl, rfl⟩
        rcases inductionHypothesis rfl with ⟨others, otherSplits, same⟩
        rw [textShape, List.length_append,
          Nat.min_eq_left (Nat.le_add_right _ _)] at cutLayout
        rw [textShape]
        exact ⟨_, .token cutLayout spells ends.of_append otherSplits, same.cons⟩

end Splits

/-- A text that is tokenized has the same tokens without the white space around it. -/
theorem tokenize_trim
    {text : String}
    {tokens : List Token}
    (tokenized : tokenize text = .ok tokens) :
    ∃ others,
      tokenize (Text.trim text) = .ok others ∧ SameTokens others tokens := by
  rcases Text.exists_trim text with ⟨leading, trailing, shape, leadBlank, trailBlank⟩
  have splits := tokenize_eq_ok_iff.mp tokenized
  rw [shape] at splits
  rcases (splits.of_blanks leadBlank).cut trailBlank with
    ⟨others, otherSplits, otherSame⟩
  rcases otherSplits.moved .start with ⟨final, finalSplits, finalSame⟩
  exact ⟨final, tokenize_eq_ok_iff.mpr finalSplits, finalSame.trans otherSame⟩

end SelectCypher
