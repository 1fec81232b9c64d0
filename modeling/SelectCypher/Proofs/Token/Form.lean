import SelectCypher.Proofs.Query.WellFormed
import SelectCypher.Proofs.Token.Stream

namespace SelectCypher

open Lexeme

/-!
# How tokens are written

`HasForm` says kind by kind what the text of a token looks like, without a word
about the scanner.  Every token that a text yields has the form of its kind: a
keyword is one in some letter case, a name is none in any, and a string is written as
the content it is read as.
-/

/-- What a token of each kind looks like. -/
def TokenKind.HasForm
    (kind : TokenKind)
    (text : String) :
    Prop :=
  match kind with
  | .keyword word => Text.sameIgnoringCase word.spelling text = true
  | .operator .notEqual => text = "<>" ∨ text = "!="
  | .operator comparison => text = comparison.symbol
  | .asterisk => text = "*"
  | .comma => text = ","
  | .leftParen => text = "("
  | .rightParen => text = ")"
  | .identifier => Identifier.WellFormed ⟨text⟩
  | .stringLiteral => ∃ content, text = Text.quoted content
  | .number => Text.IsNumeral text.toList
  | .endOfInput => text = ""

/-- A word is a keyword in some letter case, or else a name. -/
theorem TokenKind.hasForm_ofWord
    {first : Char}
    {rest : List Char}
    (opens : Text.isNameStart first = true)
    (inside : ∀ character ∈ rest, Text.isNamePart character = true) :
    (TokenKind.ofWord (String.ofList (first :: rest))).HasForm
      (String.ofList (first :: rest)) := by
  unfold TokenKind.ofWord
  split
  · rename_i keyword found
    have same := List.find?_some found
    exact same
  · rename_i notKeyword
    exact ⟨⟨first, rest, String.toList_ofList, opens, inside⟩, notKeyword⟩

theorem Lexeme.hasForm_of_symbol
    {kind : TokenKind}
    {spelled : List Char}
    (listed : (spelled, kind) ∈ symbols) :
    kind.HasForm (String.ofList spelled) := by
  simp only [symbols, List.mem_cons, Prod.mk.injEq, List.not_mem_nil,
    or_false] at listed
  rcases listed with ⟨rfl, rfl⟩ | ⟨rfl, rfl⟩ | ⟨rfl, rfl⟩ | ⟨rfl, rfl⟩ |
    ⟨rfl, rfl⟩ | ⟨rfl, rfl⟩ | ⟨rfl, rfl⟩ | ⟨rfl, rfl⟩ | ⟨rfl, rfl⟩ |
    ⟨rfl, rfl⟩ | ⟨rfl, rfl⟩
  case inr.inl =>
    exact .inl rfl
  case inr.inr.inr.inr.inr.inl =>
    exact .inr rfl
  all_goals rfl

/-- What is spelled as a kind has its form. -/
theorem Lexeme.Spells.hasForm
    {kind : TokenKind}
    {spelled : List Char}
    (spells : Spells kind spelled) :
    kind.HasForm (String.ofList spelled) := by
  cases spells with
  | symbol listed =>
      exact hasForm_of_symbol listed
  | string content =>
      refine ⟨String.ofList content, ?_⟩
      apply String.toList_injective
      rw [Text.quoted_toList, String.toList_ofList, String.toList_ofList]
  | whole someDigits isDigits =>
      have isNumeral : Text.IsNumeral spelled := .inl ⟨someDigits, isDigits⟩
      simpa only [TokenKind.HasForm, String.toList_ofList] using isNumeral
  | @decimal digits fraction someDigits isDigits someFraction isFraction =>
      have isNumeral : Text.IsNumeral (digits ++ '.' :: fraction) :=
        .inr ⟨digits, fraction, rfl, ⟨someDigits, isDigits⟩, someFraction, isFraction⟩
      simpa only [TokenKind.HasForm, String.toList_ofList] using isNumeral
  | word opens inside =>
      exact TokenKind.hasForm_ofWord opens inside

/-- What has the form of a kind is spelled as it, but for the end of input. -/
theorem TokenKind.HasForm.spells
    {kind : TokenKind}
    {text : String}
    (formed : kind.HasForm text)
    (notEnd : kind ≠ .endOfInput) :
    Spells kind text.toList := by
  cases kind with
  | keyword word =>
      exact Keyword.spells_of_sameIgnoringCase formed
  | operator comparison =>
      by_cases unequal : comparison = .notEqual
      · subst unequal
        rcases formed with rfl | rfl <;> exact .symbol (by decide)
      · have onlySymbol : text = comparison.symbol := by
          cases comparison with
          | notEqual =>
              exact absurd rfl unequal
          | _ =>
              exact formed
        rw [onlySymbol]
        exact comparison.spells_symbol
  | asterisk | comma | leftParen | rightParen =>
      rw [show text = _ from formed]
      exact .symbol (by decide)
  | identifier =>
      exact Identifier.WellFormed.spells formed
  | stringLiteral =>
      obtain ⟨content, rfl⟩ := formed
      rw [Text.quoted_toList]
      exact .string content.toList
  | number =>
      exact Text.IsNumeral.spells formed
  | endOfInput =>
      exact absurd rfl notEnd

/-! ## Quoted forms -/

/-- Between the outer quotes stands the content with its quotes doubled. -/
theorem Text.unwrapped_quoted (content : String) :
    unwrapped (quoted content).toList = doubled content.toList := by
  rw [quoted_toList, unwrapped]
  simp

/-- Both outer quotes take one byte. -/
theorem Text.byteLength_quoted (content : String) :
    byteLength (quoted content).toList =
      byteLength (doubled content.toList) + 2 := by
  have quote : Char.utf8Size '\'' = 1 := rfl
  rw [quoted_toList, List.cons_append, byteLength_cons, byteLength_append,
    byteLength_cons, byteLength_nil, quote]
  omega

theorem Token.unquoted_quoted
    (content : String)
    (position : Position) :
    Token.unquoted
        { kind := .stringLiteral
          text := Text.quoted content
          position := position } =
      content := by
  have long : 2 ≤ byteLength (Text.quoted content).toList := by
    rw [Text.byteLength_quoted]
    omega
  rw [Token.unquoted, if_pos ⟨rfl, long⟩, Text.unwrapped_quoted,
    Text.collapsed_doubled, String.ofList_toList]

/-- A string literal of this form is written as the content it is read as. -/
theorem TokenKind.HasForm.eq_quoted
    {token : Token}
    (formed : token.kind.HasForm token.text)
    (kind : token.kind = .stringLiteral) :
    token.text = Text.quoted token.unquoted := by
  cases token
  cases kind
  obtain ⟨content, rfl⟩ := formed
  rw [Token.unquoted_quoted]

/-! ## The tokens of a text -/

theorem Lexeme.Spells.text_ne_empty
    {kind : TokenKind}
    {spelled : List Char}
    (spells : Spells kind spelled) :
    String.ofList spelled ≠ "" := by
  obtain ⟨⟨first, later, rfl, -⟩, -⟩ := spells.ends
  intro empty
  have characters := congrArg String.toList empty
  simp at characters

/-- A token that is found has the form of its kind. -/
theorem Munches.hasForm
    {gap passed rest : List Char}
    {finding : Finding}
    {place : Position}
    {token : Token}
    (munches : Munches gap passed rest finding)
    (answers : finding.answer passed place = .ok token) :
    token.kind.HasForm token.text := by
  cases munches with
  | finished longest =>
      cases answers
      rfl
  | token longest closedString longestToken =>
      cases answers
      exact longestToken.spells.hasForm
  | _ =>
      cases answers

/-- Every token before the first lexical error of a text has the form of its kind. -/
theorem TokenStream.hasForm
    (position : Position)
    (text : List Char) :
    ∀ token ∈ (ofChars position text).tokens, token.kind.HasForm token.text := by
  induction text using munch_induction generalizing position with
  | found gap passed rest finding munches inductionHypothesis =>
      intro token member
      rw [ofChars_of_munches munches position] at member
      cases finding with
      | finished =>
          rw [List.mem_singleton.mp member]
          rfl
      | token kind =>
          rcases List.mem_cons.mp member with isFirst | inRest
          · rw [isFirst]
            exact munches.hasForm rfl
          · exact inductionHypothesis (by simp) _ token inRest
      | fault cause character =>
          cases member

namespace Splits

variable {position : Position}
variable {text : List Char}
variable {tokens : List Token}

/-- Every token of a text has the form of its kind. -/
theorem hasForm
    (splits : Splits position text tokens) :
    ∀ token ∈ tokens, token.kind.HasForm token.text := by
  have formed := TokenStream.hasForm position text
  rw [splits.ofChars_eq] at formed
  exact formed

/-- The end of input comes last, and every other token has some text. -/
theorem exists_body
    (splits : Splits position text tokens) :
    ∃ body,
      tokens = body ++ [.endAt (position.after text)] ∧
        ∀ token ∈ body, token.kind ≠ .endOfInput ∧ token.text ≠ "" := by
  induction splits with
  | finished layout =>
      exact ⟨[], rfl, by simp⟩
  | @token position gap spelled rest kind tokens layout spells ends splits
      inductionHypothesis =>
      obtain ⟨body, shape, someText⟩ := inductionHypothesis
      refine
        ⟨{ kind := kind
           text := String.ofList spelled
           position := position.after gap } :: body, ?_, ?_⟩
      · rw [shape, ← Position.after_append, List.append_assoc]
        rfl
      · intro token member
        rcases List.mem_cons.mp member with isFirst | inBody
        · subst token
          exact ⟨spells.ne_endOfInput, spells.text_ne_empty⟩
        · exact someText token inBody

end Splits

end SelectCypher
