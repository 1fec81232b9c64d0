import SelectCypher.Proofs.Grammar.Placement
import SelectCypher.Proofs.Token.Form
import SelectCypher.Proofs.Token.Gap

namespace SelectCypher

open Lexeme

/-!
# Other layout and other spelling

A text can be written again with other layout between its tokens, with its keywords
in other letter case, and with `!=` and `<>` exchanged.  Any two tokens are kept
apart by some layout; what stands there cannot run on into a token, nor a token into
it.  The new text has the same tokens in their new spelling.
-/

/-- A gap of layout that is complete, whatever stands behind it. -/
def Layout.Complete (gap : List Char) : Prop :=
  ∀ rest, Fills gap rest

namespace Layout.Complete

variable {gap : List Char}

theorem nothing : Complete [] :=
  fun _ => .nothing

theorem space
    {character : Char}
    (separates : isSpace character = true)
    (complete : Complete gap) :
    Complete (character :: gap) :=
  fun rest => .space separates (complete rest)

/-- A line comment is complete with the line feed behind it. -/
theorem lineComment
    {opener line : List Char}
    (opens : opener = ['-', '-'] ∨ opener = ['/', '/'])
    (inLine : '\n' ∉ line)
    (complete : Complete gap) :
    Complete (opener ++ line ++ '\n' :: gap) := by
  intro rest
  apply Fills.lineComment opens inLine
  · simp
  · exact .space rfl (complete rest)

theorem blockComment
    {content : List Char}
    (noCloser : ¬ ['*', '/'] <:+: content)
    (complete : Complete gap) :
    Complete ('/' :: '*' :: content ++ '*' :: '/' :: gap) :=
  fun rest => .blockComment noCloser (complete rest)

end Layout.Complete

/-- Another text of a token: a keyword in other letter case, or `<>` for `!=`. -/
def Token.Respells
    (token : Token)
    (text : String) :
    Prop :=
  match token.kind with
  | .keyword _ => Text.sameIgnoringCase token.text text = true
  | .operator .notEqual => text = "<>" ∨ text = "!="
  | _ => text = token.text

/-- The text of a token, and the gap in front of it. -/
structure Word where
  gap : List Char
  text : String

/-- The text of words, one behind the other. -/
def Word.texts (words : List Word) : List Char :=
  words.flatMap fun word => word.gap ++ word.text.toList

/-- Words that are the texts of some tokens, and what stands behind them. -/
structure Rewrites
    (tokens : List Token)
    (words : List Word)
    (trailing : List Char) :
    Prop where
  respelled : List.Forall₂ (fun token word => token.Respells word.text) tokens words
  layout : ∀ word ∈ words, Layout.Complete word.gap
  apart : ∀ word ∈ words.tail, word.gap ≠ []
  ends : Layout.Fills trailing []

/-- Another text of a token has the form of its kind. -/
theorem Token.Respells.hasForm
    {token : Token}
    {text : String}
    (respells : token.Respells text)
    (formed : token.kind.HasForm token.text) :
    token.kind.HasForm text := by
  unfold Token.Respells at respells
  split at respells
  · rename_i word isKeyword
    rw [isKeyword] at formed ⊢
    have same := Text.sameIgnoringCase_iff.mp formed
    exact Text.sameIgnoringCase_iff.mpr
      (same.trans (Text.sameIgnoringCase_iff.mp respells))
  · rename_i isUnequal
    rw [isUnequal]
    exact respells
  · rw [respells]
    exact formed

/-- A token in another text means the same. -/
theorem Token.Respells.meaning_eq
    {token other : Token}
    (respells : token.Respells other.text)
    (sameKind : other.kind = token.kind) :
    other.meaning = token.meaning := by
  unfold Token.meaning
  rw [sameKind]
  congr 1
  cases hasOwnText : token.kind.hasOwnText with
  | false =>
      rfl
  | true =>
      simp only [↓reduceIte]
      unfold Token.Respells at respells
      split at respells
      · rename_i isKeyword
        simp [isKeyword, TokenKind.hasOwnText] at hasOwnText
      · rename_i isUnequal
        simp [isUnequal, TokenKind.hasOwnText] at hasOwnText
      · exact respells

/-- No token is extended by layout. -/
theorem Layout.extendsLexeme_eq_false
    {character : Char}
    (opens : opensLayout character = true) :
    extendsLexeme character = false := by
  simp only [opensLayout, isSpace, Bool.or_eq_true, decide_eq_true_eq] at opens
  rcases opens with ((((rfl | rfl) | rfl) | rfl) | rfl) | rfl <;> decide

namespace Rewrites

variable {token : Token}
variable {tokens : List Token}
variable {word : Word}
variable {words : List Word}
variable {trailing : List Char}

/-- Without its first word a text is still that of the other tokens. -/
theorem tail
    (rewrites : Rewrites (token :: tokens) (word :: words) trailing) :
    Rewrites tokens words trailing where
  respelled := (List.forall₂_cons.mp rewrites.respelled).2
  layout := fun later member => rewrites.layout later (List.mem_cons_of_mem _ member)
  apart := fun later member => rewrites.apart later (List.mem_of_mem_tail member)
  ends := rewrites.ends

/-- Behind a word stands layout, or nothing. -/
theorem opensLayout
    (rewrites : Rewrites (token :: tokens) (word :: words) trailing) :
    ∀ next ∈ (Word.texts words ++ trailing).head?,
      Layout.opensLayout next = true := by
  cases words with
  | nil =>
      exact rewrites.ends.opensLayout
  | cons second more =>
      have someGap : second.gap ≠ [] := rewrites.apart second (by simp)
      have fills : Layout.Fills second.gap [] := rewrites.layout second (by simp) []
      obtain ⟨first, later, shape⟩ := List.exists_cons_of_ne_nil someGap
      have opens := fills.opensLayout first (by simp [shape])
      simpa [Word.texts, shape] using opens

/-- A text written again splits into the same tokens in their new spelling. -/
theorem exists_splits
    (rewrites : Rewrites tokens words trailing)
    (formed : ∀ token ∈ tokens, token.kind.HasForm token.text)
    (someText : ∀ token ∈ tokens, token.kind ≠ .endOfInput)
    (position : Position) :
    ∃ others,
      Splits position (Word.texts words ++ trailing) others ∧
        others.map Token.text = words.map Word.text ++ [""] ∧
        others.map Token.meaning = (tokens ++ [Token.endAt .start]).map Token.meaning := by
  induction words generalizing tokens position with
  | nil =>
      obtain rfl : tokens = [] := List.forall₂_nil_right_iff.mp rewrites.respelled
      have layout : Layout.lead trailing = .clear trailing.length := by
        have measured := Layout.lead_of_fills rewrites.ends (by simp)
        rwa [List.append_nil] at measured
      exact ⟨_, .finished layout, rfl, rfl⟩
  | cons word words inductionHypothesis =>
      obtain ⟨token, tokens, respells, -, rfl⟩ :=
        List.forall₂_cons_right_iff.mp rewrites.respelled
      simp only [List.forall_mem_cons] at formed someText
      have spells : Spells token.kind word.text.toList :=
        (respells.hasForm formed.1).spells someText.1
      have ends :
          EndsBefore token.kind word.text.toList (Word.texts words ++ trailing) := by
        apply endsBefore_of_head?
        intro next isFirst
        exact Layout.extendsLexeme_eq_false (rewrites.opensLayout next isFirst)
      have layout :
          Layout.lead
              (word.gap ++ (word.text.toList ++ (Word.texts words ++ trailing))) =
            .clear word.gap.length := by
        apply Layout.lead_of_fills (rewrites.layout word (by simp) _)
        obtain ⟨⟨first, later, shape, opens⟩, -⟩ := spells.ends
        simpa [shape] using opens
      obtain ⟨others, splits, texts, meanings⟩ :=
        inductionHypothesis rewrites.tail formed.2 someText.2
          (position.after (word.gap ++ word.text.toList))
      have shape :
          Word.texts (word :: words) ++ trailing =
            word.gap ++ (word.text.toList ++ (Word.texts words ++ trailing)) := by
        simp [Word.texts]
      rw [shape]
      refine ⟨_, .token layout spells ends splits, by simp [texts], ?_⟩
      rw [List.map_cons, meanings, List.cons_append, List.map_cons]
      congr 1
      apply Token.Respells.meaning_eq
      · simpa using respells
      · rfl

end Rewrites

end SelectCypher
