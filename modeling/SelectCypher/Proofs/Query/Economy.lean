import SelectCypher.Proofs.Grammar.Pairs
import SelectCypher.Proofs.Query.Canonical
import SelectCypher.Proofs.Query.Formed
import SelectCypher.Proofs.Text.LetterCase

namespace SelectCypher

open Grammar

/-!
# Canonical text has the fewest parentheses

The tokens of a query's canonical text are those of any text it is read from, with
matched parentheses deleted and keywords and operators in their canonical spelling.
So canonical text nests no deeper than the text, is read back within the same
limit, and no other text of the query has fewer parentheses.
-/

/-- The text of a token in canonical spelling: capitals, and `<>` for `!=`. -/
def Token.canonicalText (token : Token) : String :=
  match token.kind with
  | .keyword _ => Text.capitals token.text
  | .operator _ => if token.text = "!=" then "<>" else token.text
  | _ => token.text

/-- A token as canonical text writes it, apart from its place. -/
def Token.respelled (token : Token) : Token :=
  .bare token.kind token.canonicalText

/-- A row of tokens that leaves another one when matched parentheses are deleted. -/
def Thins (tokens row : List Token) : Prop :=
  ∃ fewer, Omits tokens fewer ∧ fewer.map Token.respelled = row

/-! ## Canonical spelling -/

theorem Keyword.capitals_spelling (word : Keyword) :
    Text.capitals word.spelling = word.spelling := by
  cases word <;> decide

theorem Token.respelled_of_keyword
    {token : Token}
    {word : Keyword}
    (isKeyword : token.kind = .keyword word)
    (formed : token.kind.HasForm token.text) :
    token.respelled = .bare (.keyword word) word.spelling := by
  rw [isKeyword] at formed
  have capitals : Text.capitals word.spelling = Text.capitals token.text :=
    Text.capitals_eq_of_sameIgnoringCase formed
  rw [Token.respelled, Token.canonicalText, isKeyword]
  simp only [← capitals, word.capitals_spelling]

theorem Token.respelled_of_operator
    {token : Token}
    {comparison : Operator}
    (compares : token.kind = .operator comparison)
    (formed : token.kind.HasForm token.text) :
    token.respelled = .bare (.operator comparison) comparison.symbol := by
  rw [compares] at formed
  rw [Token.respelled, Token.canonicalText, compares]
  by_cases unequal : comparison = .notEqual
  · subst unequal
    rcases formed with asCanonical | asAlternative
    · simp [asCanonical, Operator.symbol]
    · simp [asAlternative, Operator.symbol]
  · have onlySymbol : token.text = comparison.symbol := by
      cases comparison with
      | notEqual =>
          exact absurd rfl unequal
      | _ =>
          exact formed
    have notAlternative : comparison.symbol ≠ "!=" := by
      cases comparison <;> decide
    simp [onlySymbol, notAlternative]

/-- A token of a kind with a single spelling, which canonical text keeps. -/
theorem Token.respelled_of_kept
    {token : Token}
    {kind : TokenKind}
    (isKind : token.kind = kind)
    (notKeyword : ∀ word, kind ≠ .keyword word)
    (notOperator : ∀ comparison, kind ≠ .operator comparison) :
    token.respelled = .bare kind token.text := by
  rw [Token.respelled, Token.canonicalText, isKind]
  cases kind with
  | keyword word =>
      exact absurd rfl (notKeyword word)
  | operator comparison =>
      exact absurd rfl (notOperator comparison)
  | _ =>
      rfl

theorem Grammar.Denotes.respelled
    {token : Token}
    {literal : Literal}
    (denotes : Denotes token literal)
    (formed : token.kind.HasForm token.text) :
    token.respelled = .bare literal.tokenKind literal.canonical := by
  cases denotes with
  | string kind =>
      rw [Token.respelled_of_kept kind (by simp) (by simp), formed.eq_quoted kind]
      rfl
  | number kind =>
      have kept := Token.respelled_of_kept kind (by simp) (by simp)
      exact kept
  | truth kind | falsehood kind | null kind =>
      exact Token.respelled_of_keyword kind formed

/-! ## Rows that are thinned -/

namespace Thins

variable {tokens others row otherRow : List Token}

theorem append
    (thins : Thins tokens row)
    (otherThins : Thins others otherRow) :
    Thins (tokens ++ others) (row ++ otherRow) := by
  obtain ⟨fewer, omits, rfl⟩ := thins
  obtain ⟨fewerOthers, otherOmits, rfl⟩ := otherThins
  exact ⟨fewer ++ fewerOthers, omits.append otherOmits, List.map_append⟩

/-- One more token in front. -/
theorem cons
    {token bare : Token}
    (respelled : token.respelled = bare)
    (thins : Thins tokens row) :
    Thins (token :: tokens) (bare :: row) := by
  have single : Thins [token] [bare] :=
    ⟨[token], .nothing _, by rw [List.map_singleton, respelled]⟩
  exact single.append thins

theorem nil : Thins [] [] :=
  ⟨[], .nothing _, rfl⟩

/-- Parentheses around a row stay there. -/
theorem enclosed
    {opening closing : Token}
    (opens : opening.kind = .leftParen)
    (closes : closing.kind = .rightParen)
    (openingForm : opening.kind.HasForm opening.text)
    (closingForm : closing.kind.HasForm closing.text)
    (thins : Thins tokens row) :
    Thins (opening :: tokens ++ [closing]) (enclosedRow true row) := by
  have openingSpelled := Token.respelled_of_kept opens (by simp) (by simp)
  have closingSpelled := Token.respelled_of_kept closes (by simp) (by simp)
  rw [opens] at openingForm
  rw [closes] at closingForm
  rw [show opening.text = "(" from openingForm] at openingSpelled
  rw [show closing.text = ")" from closingForm] at closingSpelled
  exact (thins.append (.cons closingSpelled .nil)).cons openingSpelled

/-- Parentheses that are not needed can be deleted as well. -/
theorem unwrapped
    {needed stillNeeded : Bool}
    (thins : Thins tokens (enclosedRow needed row))
    (balanced : Balanced row)
    (fewerNeeded : stillNeeded = true → needed = true) :
    Thins tokens (enclosedRow stillNeeded row) := by
  by_cases same : stillNeeded = needed
  · rw [same]
    exact thins
  · have dropped : stillNeeded = false ∧ needed = true := by
      cases needed <;> cases stillNeeded <;> simp_all
    obtain ⟨rfl, rfl⟩ := dropped
    obtain ⟨fewer, omits, shape⟩ := thins
    obtain ⟨opening, later, rfl, openingShape, laterShape⟩ :=
      List.map_eq_cons_iff.mp (show fewer.map Token.respelled = _ :: _ from shape)
    obtain ⟨inside, last, rfl, insideShape, lastShape⟩ :=
      List.map_eq_append_iff.mp laterShape
    obtain ⟨closing, rfl, closingShape⟩ := List.map_eq_singleton_iff.mp lastShape
    have insideBalanced : Balanced inside := by
      apply balanced.of_kinds
      rw [← insideShape, List.map_map]
      rfl
    have opens : opening.kind = .leftParen := congrArg Token.kind openingShape
    have closes : closing.kind = .rightParen := congrArg Token.kind closingShape
    exact ⟨inside, omits.trans (Omits.unwrapped opens insideBalanced closes),
      insideShape⟩

end Thins

theorem Grammar.Balanced.enclosedRow
    {row : List Token}
    (needed : Bool)
    (balanced : Balanced row) :
    Balanced (SelectCypher.enclosedRow needed row) := by
  cases needed with
  | false =>
      exact balanced
  | true =>
      exact .group rfl balanced rfl .nothing

/-- The parentheses of a condition's canonical text match each other. -/
theorem Condition.balanced_row (condition : Condition) :
    Balanced condition.row := by
  induction condition with
  | comparison column operator value =>
      apply Balanced.of_noParens
      have valueKind :
          value.tokenKind ≠ .leftParen ∧ value.tokenKind ≠ .rightParen := by
        rcases value with content | digits | value | _
        case bool => cases value <;> simp [Literal.tokenKind]
        all_goals simp [Literal.tokenKind]
      simpa [Condition.row, Token.bare] using valueKind
  | join connective left right leftHypothesis rightHypothesis =>
      apply Balanced.append
      · exact leftHypothesis.enclosedRow _
      · apply Balanced.token (by simp [Token.bare]) (by simp [Token.bare])
        exact rightHypothesis.enclosedRow _

/-- Operands of the layers that a connective needs make the row of their join. -/
theorem Thins.join
    {connective : Connective}
    {before behind : List Token}
    {word : Token}
    {left right : Condition}
    (isWord : word.kind = .keyword connective.keyword)
    (wordForm : word.kind.HasForm word.text)
    (leftThins :
      Thins before
        (enclosedRow (left.precedence < connective.leftLayer.precedence) left.row))
    (rightThins :
      Thins behind
        (enclosedRow (right.precedence < connective.rightLayer.precedence)
          right.row)) :
    Thins (before ++ word :: behind) (Condition.join connective left right).row := by
  have respelled : word.respelled = .bare (.keyword connective.keyword) connective.word := by
    rw [Token.respelled_of_keyword isWord wordForm]
    cases connective <;> rfl
  rw [connective.leftLayer_precedence] at leftThins
  rw [connective.rightLayer_precedence] at rightThins
  simp only [Nat.lt_succ_iff] at rightThins
  exact leftThins.append (rightThins.cons respelled)

namespace Grammar

/--
What forms a condition at a layer leaves the condition's row when the parentheses
that the layer does not need are deleted.
-/
theorem Forms.thins
    {layer : Layer}
    {tokens : List Token}
    {condition : Condition}
    (forms : Forms layer tokens condition)
    (formed : ∀ token ∈ tokens, token.kind.HasForm token.text) :
    Thins tokens
      (enclosedRow (condition.precedence < layer.precedence) condition.row) := by
  induction forms with
  | comparison named compares denotes =>
      simp only [List.forall_mem_cons] at formed
      obtain ⟨-, operatorForm, valueForm, -⟩ := formed
      have columnSpelled := Token.respelled_of_kept named (by simp) (by simp)
      exact ((Thins.nil.cons (denotes.respelled valueForm)).cons
        (Token.respelled_of_operator compares operatorForm)).cons columnSpelled
  | @group opening closing tokens condition opens forms closes inductionHypothesis =>
      simp only [List.cons_append, List.forall_mem_cons,
        List.forall_mem_append] at formed
      obtain ⟨openingForm, insideForm, closingForm, -⟩ := formed
      have bare : Thins tokens (enclosedRow false condition.row) := by
        apply (inductionHypothesis insideForm).unwrapped condition.balanced_row
        simp
      have wrapped := Thins.enclosed opens closes openingForm closingForm bare
      apply wrapped.unwrapped condition.balanced_row
      simp
  | @oneOperand tokens condition forms inductionHypothesis =>
      apply (inductionHypothesis formed).unwrapped condition.balanced_row
      intro needed
      apply decide_eq_true
      exact Nat.lt_succ_of_lt (of_decide_eq_true needed)
  | @oneConjunction tokens condition forms inductionHypothesis =>
      apply (inductionHypothesis formed).unwrapped condition.balanced_row
      intro needed
      apply decide_eq_true
      exact Nat.lt_succ_of_lt (of_decide_eq_true needed)
  | and leftForms joins rightForms leftHypothesis rightHypothesis =>
      simp only [List.forall_mem_append, List.forall_mem_cons] at formed
      exact Thins.join joins formed.2.1 (leftHypothesis formed.1)
        (rightHypothesis formed.2.2)
  | or leftForms joins rightForms leftHypothesis rightHypothesis =>
      simp only [List.forall_mem_append, List.forall_mem_cons] at formed
      exact Thins.join joins formed.2.1 (leftHypothesis formed.1)
        (rightHypothesis formed.2.2)

theorem Lists.thins
    {tokens : List Token}
    {names : List Identifier}
    (lists : Lists tokens names)
    (formed : ∀ token ∈ tokens, token.kind.HasForm token.text) :
    Thins tokens (namesRow names) := by
  induction lists with
  | one isName =>
      exact Thins.nil.cons (Token.respelled_of_kept isName (by simp) (by simp))
  | @more comma name tokens names lists isComma isName inductionHypothesis =>
      simp only [List.forall_mem_append, List.forall_mem_cons] at formed
      obtain ⟨listForm, commaForm, -⟩ := formed
      have someNames := (lists.wellFormed listForm).1
      have commaSpelled := Token.respelled_of_kept isComma (by simp) (by simp)
      have nameSpelled := Token.respelled_of_kept isName (by simp) (by simp)
      rw [isComma] at commaForm
      rw [show comma.text = "," from commaForm] at commaSpelled
      rw [namesRow_append someNames]
      exact (inductionHypothesis listForm).append
        ((Thins.nil.cons nameSpelled).cons commaSpelled)

theorem Selects.thins
    {tokens : List Token}
    {selection : Selection}
    (selects : Selects tokens selection)
    (formed : ∀ token ∈ tokens, token.kind.HasForm token.text) :
    Thins tokens selection.row := by
  cases selects with
  | @everything asterisk isAsterisk =>
      have spelled := Token.respelled_of_kept isAsterisk (by simp) (by simp)
      have form := formed asterisk (by simp)
      rw [isAsterisk] at form
      rw [show asterisk.text = "*" from form] at spelled
      exact Thins.nil.cons spelled
  | columns lists =>
      exact lists.thins formed

theorem Filters.thins
    {tokens : List Token}
    {filter? : Option Condition}
    (filters : Filters tokens filter?)
    (formed : ∀ token ∈ tokens, token.kind.HasForm token.text) :
    Thins tokens (filterRow filter?) := by
  cases filters with
  | absent =>
      exact Thins.nil
  | @present word tokens condition isWord forms =>
      simp only [List.forall_mem_cons] at formed
      have thins : Thins tokens (enclosedRow false condition.row) := by
        apply (forms.thins formed.2).unwrapped condition.balanced_row
        simp
      exact Thins.cons (Token.respelled_of_keyword isWord formed.1) thins

/-- A sentence leaves the row of its query when needless parentheses are deleted. -/
theorem Sentence.thins
    {tokens : List Token}
    {query : Query}
    (sentence : Sentence tokens query)
    (formed : ∀ token ∈ tokens, token.kind.HasForm token.text) :
    Thins tokens query.row := by
  cases sentence with
  | @query select source table last selected filtered selection filter? isSelect
      selects isSource isTable filters isEnd =>
      simp only [List.cons_append, List.forall_mem_cons,
        List.forall_mem_append] at formed
      obtain ⟨selectForm, ⟨selectedForm, sourceForm, -, filteredForm⟩, lastForm, -⟩ :=
        formed
      have lastSpelled := Token.respelled_of_kept isEnd (by simp) (by simp)
      rw [isEnd] at lastForm
      rw [show last.text = "" from lastForm] at lastSpelled
      have opening :=
        (selects.thins selectedForm).cons
          (Token.respelled_of_keyword isSelect selectForm)
      have middle :=
        ((filters.thins filteredForm).cons
          (Token.respelled_of_kept isTable (by simp) (by simp))).cons
            (Token.respelled_of_keyword isSource sourceForm)
      exact (opening.append middle).append (Thins.nil.cons lastSpelled)

theorem openings_eq_of_kinds
    {first second : List Token}
    (same : first.map Token.kind = second.map Token.kind) :
    openings first = openings second := by
  have counted :
      ∀ tokens : List Token,
        openings tokens = (tokens.map Token.kind).countP (· = .leftParen) := by
    intro tokens
    simp [openings, List.countP_map, Function.comp_def]
  rw [counted, counted, same]

end Grammar

/-! ## Canonical text of a query that is read -/

namespace Query

/-- The tokens of a query's canonical text, beside those of a text of the query. -/
structure Economical
    (query : Query)
    (maxDepth : Nat)
    (tokens canonicalTokens : List Token) :
    Prop where
  /-- Only matched parentheses are dropped, and only spellings change. -/
  omits :
    ∃ fewer,
      Omits tokens fewer ∧
        canonicalTokens.map Token.unplaced = fewer.map Token.respelled
  nesting :
    ∀ limit, NestedWithin limit tokens → NestedWithin limit canonicalTokens
  rereads : Query.ofText query.canonical { maxDepth := maxDepth } = .ok query
  rerenders :
    (Query.ofText query.canonical { maxDepth := maxDepth }).map Query.canonical =
      .ok query.canonical
  /-- No text of the query has fewer opening parentheses. -/
  fewest :
    ∀ text limits otherTokens,
      Query.ofText text limits = .ok query →
      tokenize text = .ok otherTokens →
      openings canonicalTokens ≤ openings otherTokens

/-- Tokens at any places have the kinds of those that are respelled as the same row. -/
theorem kinds_eq_of_row
    {tokens fewer row : List Token}
    (isRow : tokens.map Token.unplaced = row)
    (fewerRow : fewer.map Token.respelled = row) :
    tokens.map Token.kind = fewer.map Token.kind := by
  have kinds := congrArg (List.map Token.kind) (isRow.trans fewerRow.symm)
  simpa [Function.comp_def, Token.unplaced, Token.respelled, Token.bare] using kinds

/-- The tokens of any text of a query leave the row of the query. -/
theorem thins_of_ofText
    {text : String}
    {limits : Limits}
    {query : Query}
    {tokens : List Token}
    (read : Query.ofText text limits = .ok query)
    (tokenized : tokenize text = .ok tokens) :
    Thins tokens query.row := by
  obtain ⟨-, others, otherTokenized, sentence, -⟩ := Query.ofText_eq_ok_iff.mp read
  rw [tokenized] at otherTokenized
  cases otherTokenized
  exact sentence.thins (hasForm_of_tokenize tokenized)

/--
Canonical text of a query that is read drops parentheses of the text and nothing
else, as many as possible: its tokens are those of the text without some matched
pairs, it nests no deeper, the same limit admits it, and no text of the query has
fewer parentheses.
-/
theorem economical_of_ofText
    {text : String}
    {maxDepth : Nat}
    {query : Query}
    (read : Query.ofText text { maxDepth := maxDepth } = .ok query) :
    ∃ tokens canonicalTokens,
      tokenize text = .ok tokens ∧
        tokenize query.canonical = .ok canonicalTokens ∧
        query.Economical maxDepth tokens canonicalTokens := by
  obtain ⟨-, tokens, tokenized, -, within⟩ := Query.ofText_eq_ok_iff.mp read
  have wellFormed := Query.wellFormed_of_ofText read
  obtain ⟨canonicalTokens, canonicalTokenized, isRow⟩ := wellFormed.tokenize_canonical
  have sentence := wellFormed.sentence_of_row isRow
  obtain ⟨fewer, omits, fewerRow⟩ := thins_of_ofText read tokenized
  have nesting :
      ∀ limit, NestedWithin limit tokens → NestedWithin limit canonicalTokens := by
    intro limit nested
    exact (omits.nestedWithin nested).of_kinds (kinds_eq_of_row isRow fewerRow)
  have rereads :
      Query.ofText query.canonical { maxDepth := maxDepth } = .ok query :=
    Query.ofText_eq_ok_iff.mpr
      ⟨rfl, canonicalTokens, canonicalTokenized, sentence, nesting maxDepth within⟩
  have fewest :
      ∀ other limits otherTokens,
        Query.ofText other limits = .ok query →
        tokenize other = .ok otherTokens →
        openings canonicalTokens ≤ openings otherTokens := by
    intro other limits otherTokens otherRead otherTokenized
    obtain ⟨otherFewer, otherOmits, otherRow⟩ :=
      thins_of_ofText otherRead otherTokenized
    rw [openings_eq_of_kinds (kinds_eq_of_row isRow otherRow)]
    exact otherOmits.openings_le
  refine ⟨tokens, canonicalTokens, tokenized, canonicalTokenized, ?_⟩
  exact {
    omits := ⟨fewer, omits, isRow.trans fewerRow.symm⟩
    nesting := nesting
    rereads := rereads
    rerenders := by
      rw [rereads]
      rfl
    fewest := fewest }

/-- Needless parentheses around operands and conditions, and one pair that is needed. -/
theorem economical_of_ofText_redundant :
    let text :=
      "select a from T where ((a != 1)) and ((b = 'it''s (' or c <= Null)) or (d > false)"
    let query : Query :=
      { selection := .columns [⟨"a"⟩]
        table := ⟨"T"⟩
        filter? :=
          some
            (.join .or
              (.join .and (.comparison ⟨"a"⟩ .notEqual (.number "1"))
                (.join .or (.comparison ⟨"b"⟩ .equal (.string "it's ("))
                  (.comparison ⟨"c"⟩ .lessOrEqual .null)))
              (.comparison ⟨"d"⟩ .greater (.bool false))) }
    Query.ofText text { maxDepth := 2 } = .ok query ∧
      ∃ tokens canonicalTokens,
        tokenize text = .ok tokens ∧
          tokenize query.canonical = .ok canonicalTokens ∧
          query.Economical 2 tokens canonicalTokens := by
  intro text query
  have read : Query.ofText text { maxDepth := 2 } = .ok query := by decide +kernel
  exact ⟨read, economical_of_ofText read⟩

end Query

end SelectCypher
