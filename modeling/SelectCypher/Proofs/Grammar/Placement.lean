import SelectCypher.Proofs.Reader.Completeness
import SelectCypher.Proofs.Reader.Viability

namespace SelectCypher

open Grammar

/-!
# Tokens apart from their places

The grammar looks at the kinds of tokens only, and at the texts of names, strings and
numbers.  Rows of the same tokens at other positions form the same queries and nest
as deep, and so do rows that differ in what the grammar does not look at.
-/

/-- A token apart from its place. -/
def Token.unplaced (token : Token) : Token :=
  { token with position := .start }

/-- The same tokens in the same order, wherever they stand. -/
def SameTokens (first second : List Token) : Prop :=
  first.map Token.unplaced = second.map Token.unplaced

namespace SameTokens

theorem trans
    {first second third : List Token}
    (earlier : SameTokens first second)
    (later : SameTokens second third) :
    SameTokens first third :=
  Eq.trans earlier later

/-- One more token in front, in two places. -/
theorem cons
    {first second : List Token}
    {kind : TokenKind}
    {text : String}
    {place otherPlace : Position}
    (same : SameTokens first second) :
    SameTokens
      ({ kind := kind, text := text, position := place } :: first)
      ({ kind := kind, text := text, position := otherPlace } :: second) :=
  congrArg (List.cons _) same

end SameTokens

/-- Whether the text of a token says more than its kind does. -/
def TokenKind.hasOwnText : TokenKind → Bool
  | .identifier | .stringLiteral | .number => true
  | _ => false

/-- A change of tokens that keeps all the grammar looks at. -/
structure KeepsMeaning (change : Token → Token) : Prop where
  kind : ∀ token, (change token).kind = token.kind
  text :
    ∀ token, token.kind.hasOwnText = true → (change token).text = token.text

/-- A token without its place, and without a text that says no more than its kind. -/
def Token.meaning (token : Token) : Token where
  kind := token.kind
  text := if token.kind.hasOwnText then token.text else ""
  position := .start

theorem Token.unplaced_keepsMeaning : KeepsMeaning Token.unplaced where
  kind _ := rfl
  text _ _ := rfl

theorem Token.meaning_keepsMeaning : KeepsMeaning Token.meaning where
  kind _ := rfl
  text _ hasOwnText := if_pos hasOwnText

namespace Grammar

variable {change : Token → Token}

theorem Denotes.map
    {token : Token}
    {literal : Literal}
    (keeps : KeepsMeaning change)
    (denotes : Denotes token literal) :
    Denotes (change token) literal := by
  have sameKind := keeps.kind token
  cases denotes with
  | string kind =>
      have sameText := keeps.text token (by rw [kind]; rfl)
      have unquoted : token.unquoted = (change token).unquoted := by
        rw [Token.unquoted, Token.unquoted, sameKind, sameText]
      rw [unquoted]
      exact .string (sameKind.trans kind)
  | number kind =>
      rw [← keeps.text token (by rw [kind]; rfl)]
      exact .number (sameKind.trans kind)
  | truth kind =>
      exact .truth (sameKind.trans kind)
  | falsehood kind =>
      exact .falsehood (sameKind.trans kind)
  | null kind =>
      exact .null (sameKind.trans kind)

theorem Forms.map
    {layer : Layer}
    {tokens : List Token}
    {condition : Condition}
    (keeps : KeepsMeaning change)
    (forms : Forms layer tokens condition) :
    Forms layer (tokens.map change) condition := by
  induction forms with
  | @comparison column operator value _ _ named compares denotes =>
      rw [← keeps.text column (by rw [named]; rfl)]
      exact .comparison ((keeps.kind column).trans named)
        ((keeps.kind operator).trans compares) (denotes.map keeps)
  | @group opening closing tokens condition opens forms closes
      inductionHypothesis =>
      rw [List.map_append, List.map_cons]
      exact .group ((keeps.kind opening).trans opens) inductionHypothesis
        ((keeps.kind closing).trans closes)
  | oneOperand forms inductionHypothesis =>
      exact .oneOperand inductionHypothesis
  | @and word _ _ _ _ leftForms joins rightForms leftHypothesis rightHypothesis =>
      rw [List.map_append, List.map_cons]
      exact .and leftHypothesis ((keeps.kind word).trans joins) rightHypothesis
  | oneConjunction forms inductionHypothesis =>
      exact .oneConjunction inductionHypothesis
  | @or word _ _ _ _ leftForms joins rightForms leftHypothesis rightHypothesis =>
      rw [List.map_append, List.map_cons]
      exact .or leftHypothesis ((keeps.kind word).trans joins) rightHypothesis

theorem Lists.map
    {tokens : List Token}
    {names : List Identifier}
    (keeps : KeepsMeaning change)
    (lists : Lists tokens names) :
    Lists (tokens.map change) names := by
  induction lists with
  | @one name isName =>
      rw [← keeps.text name (by rw [isName]; rfl)]
      exact .one ((keeps.kind name).trans isName)
  | @more comma name _ _ lists isComma isName inductionHypothesis =>
      rw [List.map_append, ← keeps.text name (by rw [isName]; rfl)]
      exact .more inductionHypothesis ((keeps.kind comma).trans isComma)
        ((keeps.kind name).trans isName)

theorem Selects.map
    {tokens : List Token}
    {selection : Selection}
    (keeps : KeepsMeaning change)
    (selects : Selects tokens selection) :
    Selects (tokens.map change) selection := by
  cases selects with
  | @everything token asterisk =>
      exact .everything ((keeps.kind token).trans asterisk)
  | columns lists =>
      exact .columns (lists.map keeps)

theorem Filters.map
    {tokens : List Token}
    {filter? : Option Condition}
    (keeps : KeepsMeaning change)
    (filters : Filters tokens filter?) :
    Filters (tokens.map change) filter? := by
  cases filters with
  | absent =>
      exact .absent
  | @present token _ _ word forms =>
      exact .present ((keeps.kind token).trans word) (forms.map keeps)

theorem Sentence.map
    {tokens : List Token}
    {query : Query}
    (keeps : KeepsMeaning change)
    (sentence : Sentence tokens query) :
    Sentence (tokens.map change) query := by
  cases sentence with
  | @query select source table last _ _ _ _ isSelect selects isSource isTable filters
      isEnd =>
      simp only [List.map_append, List.map_cons, List.map_nil]
      rw [← keeps.text table (by rw [isTable]; rfl)]
      exact .query ((keeps.kind select).trans isSelect) (selects.map keeps)
        ((keeps.kind source).trans isSource) ((keeps.kind table).trans isTable)
        (filters.map keeps) ((keeps.kind last).trans isEnd)

theorem kinds_of_map
    {first second : List Token}
    (keeps : KeepsMeaning change)
    (same : first.map change = second.map change) :
    first.map Token.kind = second.map Token.kind := by
  have mapped := congrArg (List.map Token.kind) same
  simpa [Function.comp_def, keeps.kind] using mapped

/-- Tokens that are the same after a change which keeps meaning are the same query. -/
theorem Sentence.of_map
    {tokens others : List Token}
    {query : Query}
    (keeps : KeepsMeaning change)
    (sentence : Sentence tokens query)
    (same : others.map change = tokens.map change) :
    Sentence others query := by
  have path := sentence.path?_eq
  rw [← kinds_of_map keeps same] at path
  rcases sentence_iff_path?.mpr path with ⟨other, otherSentence⟩
  have changed := otherSentence.map keeps
  rw [same] at changed
  rw [(sentence.map keeps).unique changed]
  exact otherSentence

end Grammar

theorem SameTokens.kinds
    {first second : List Token}
    (same : SameTokens first second) :
    first.map Token.kind = second.map Token.kind :=
  kinds_of_map Token.unplaced_keepsMeaning same

namespace Grammar

/-- The same tokens are the same query, wherever they stand. -/
theorem Sentence.of_sameTokens
    {tokens others : List Token}
    {query : Query}
    (sentence : Sentence tokens query)
    (same : SameTokens others tokens) :
    Sentence others query :=
  sentence.of_map Token.unplaced_keepsMeaning same

theorem unclosed_eq_of_kinds
    {first second : List Token}
    (same : first.map Token.kind = second.map Token.kind) :
    unclosed first = unclosed second := by
  have counted :
      ∀ tokens : List Token,
        unclosed tokens =
          (tokens.map Token.kind).countP (· = .leftParen) -
            (tokens.map Token.kind).countP (· = .rightParen) := by
    intro tokens
    simp [unclosed, List.countP_map, Function.comp_def]
  rw [counted, counted, same]

/-- Nesting depends on the kinds of tokens only. -/
theorem NestedWithin.of_kinds
    {limit : Nat}
    {tokens others : List Token}
    (within : NestedWithin limit tokens)
    (same : others.map Token.kind = tokens.map Token.kind) :
    NestedWithin limit others := by
  rintro before opening behind rfl isOpening
  rw [List.map_append, List.map_cons] at same
  rcases List.map_eq_append_iff.mp same.symm with
    ⟨otherBefore, rest, rfl, sameBefore, sameRest⟩
  rcases List.map_eq_cons_iff.mp sameRest with
    ⟨otherOpening, otherBehind, rfl, sameOpening, -⟩
  rw [← unclosed_eq_of_kinds sameBefore]
  apply within otherBefore otherOpening otherBehind rfl
  rw [sameOpening]
  exact isOpening

end Grammar

end SelectCypher
