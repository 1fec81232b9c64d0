import Mathlib.Data.List.Induction
import SelectCypher.Proofs.Grammar.Placement
import SelectCypher.Proofs.Query.WellFormed
import SelectCypher.Proofs.Token.Stream

namespace SelectCypher

open Lexeme

/-!
# The tokens of canonical text

`Query.row` lists the tokens of a query's canonical text apart from their places,
by recursion on the query as the text is written.  `WritesRow` says of a piece of
text that it stands for a row wherever a delimiter follows it; pieces are put
together by rules that follow the canonical form, so the canonical text of a
well-formed query is tokenized as exactly its row.
-/

/-! ## Rows -/

/-- A token apart from any place. -/
def Token.bare
    (kind : TokenKind)
    (text : String) :
    Token where
  kind := kind
  text := text
  position := .start

/-- The keyword that a connective is written as. -/
def Connective.keyword : Connective → Keyword
  | .and => .andWord
  | .or => .orWord

/-- A row of tokens between parentheses, if asked for. -/
def enclosedRow
    (needed : Bool)
    (row : List Token) :
    List Token :=
  if needed then .bare .leftParen "(" :: row ++ [.bare .rightParen ")"] else row

/-- The tokens of the canonical text of a condition. -/
def Condition.row : Condition → List Token
  | .comparison column operator value =>
      [.bare .identifier column.text, .bare (.operator operator) operator.symbol,
        .bare value.tokenKind value.canonical]
  | .join connective left right =>
      enclosedRow (left.precedence < connective.precedence) left.row ++
        .bare (.keyword connective.keyword) connective.word ::
          enclosedRow (right.precedence ≤ connective.precedence) right.row

/-- The tokens of names with commas between them. -/
def namesRow : List Identifier → List Token
  | [] =>
      []
  | first :: more =>
      .bare .identifier first.text ::
        more.flatMap fun name => [.bare .comma ",", .bare .identifier name.text]

/-- The tokens of the canonical text of a selection. -/
def Selection.row : Selection → List Token
  | .everything =>
      [.bare .asterisk "*"]
  | .columns names =>
      namesRow names

/-- The tokens of the canonical text of a filter. -/
def filterRow : Option Condition → List Token
  | none =>
      []
  | some condition =>
      .bare (.keyword .whereWord) "WHERE" :: condition.row

/-- The tokens of the canonical text of a query. -/
def Query.row (query : Query) : List Token :=
  .bare (.keyword .selectWord) "SELECT" :: query.selection.row ++
    .bare (.keyword .fromWord) "FROM" :: .bare .identifier query.table.text ::
      filterRow query.filter? ++
    [.bare .endOfInput ""]

/-- One more name behind a list comes with a comma. -/
theorem namesRow_append
    {names : List Identifier}
    (someNames : names ≠ [])
    (last : Identifier) :
    namesRow (names ++ [last]) =
      namesRow names ++ [.bare .comma ",", .bare .identifier last.text] := by
  cases names with
  | nil =>
      exact absurd rfl someNames
  | cons first more =>
      simp [namesRow]

/-! ## Tokens in front of other text -/

/-- What may follow a piece of text: its end, or a character that ends any token. -/
def Delimited (rest : List Char) : Prop :=
  ∀ next ∈ rest.head?, next = ' ' ∨ next = ',' ∨ next = ')'

namespace Delimited

theorem nil : Delimited [] := by
  simp [Delimited]

theorem space (rest : List Char) : Delimited (' ' :: rest) := by
  simp [Delimited]

theorem comma (rest : List Char) : Delimited (',' :: rest) := by
  simp [Delimited]

theorem closing (rest : List Char) : Delimited (')' :: rest) := by
  simp [Delimited]

/-- Every token ends before a delimiter. -/
theorem endsBefore
    {kind : TokenKind}
    {spelled rest : List Char}
    (delimited : Delimited rest) :
    EndsBefore kind spelled rest := by
  apply endsBefore_of_head?
  intro next isFirst
  rcases delimited next isFirst with rfl | rfl | rfl <;> decide

end Delimited

namespace Splits

/-- A token at the front of a text comes first. -/
theorem spelled
    {position : Position}
    {kind : TokenKind}
    {spelled rest : List Char}
    {later : List Token}
    (spells : Spells kind spelled)
    (ends : EndsBefore kind spelled rest)
    (splits : Splits (position.after spelled) rest later) :
    Splits position (spelled ++ rest)
      ({ kind := kind
         text := String.ofList spelled
         position := position } :: later) := by
  have layout : Layout.lead ([] ++ (spelled ++ rest)) = .clear 0 := by
    obtain ⟨⟨first, more, rfl, opens⟩, -⟩ := spells.ends
    exact Layout.lead_of_opensLexeme (more ++ rest) opens
  exact .token layout spells ends splits

/-- A space before a text leaves its tokens as they are. -/
theorem spaced
    {position : Position}
    {space : Char}
    {rest : List Char}
    {tokens : List Token}
    (separates : Layout.isSpace space = true)
    (splits : Splits (position.advance space) rest tokens) :
    Splits position (space :: rest) tokens := by
  cases splits with
  | finished layout =>
      refine .finished ?_
      rw [Layout.lead_space rest separates, layout]
      simp [Layout.Lead.behind, Nat.add_comm]
  | @token _ gap spelled rest kind tokens layout spells ends splits =>
      have longer :
          Layout.lead ((space :: gap) ++ (spelled ++ rest)) =
            .clear (space :: gap).length := by
        rw [List.cons_append, Layout.lead_space _ separates, layout]
        simp [Layout.Lead.behind, Nat.add_comm]
      exact @token position (space :: gap) _ _ _ _ longer spells ends splits

end Splits

/-! ## Text that is tokenized as a row -/

/--
A piece of text stands for a row of tokens, whatever position it begins at and
whatever follows behind a delimiter.
-/
def WritesRow
    (row : List Token)
    (text : List Char) :
    Prop :=
  ∀ position rest later,
    Delimited rest →
    Splits (position.after text) rest later →
    ∃ tokens,
      tokens.map Token.unplaced = row ∧
        Splits position (text ++ rest) (tokens ++ later)

namespace WritesRow

variable {row more : List Token}
variable {text moreText : List Char}

/-- A single token stands for itself. -/
theorem spelled
    {kind : TokenKind}
    (spells : Spells kind text) :
    WritesRow [.bare kind (String.ofList text)] text := by
  intro position rest later delimited splits
  exact ⟨[_], rfl, .spelled spells delimited.endsBefore splits⟩

/-- A word whose text is known. -/
theorem word
    {kind : TokenKind}
    {written : String}
    (spells : Spells kind written.toList) :
    WritesRow [.bare kind written] written.toList := by
  have writes := spelled spells
  rwa [String.ofList_toList] at writes

/-- Two pieces with a space between them stand for the tokens of both. -/
theorem spaced
    (writes : WritesRow row text)
    (writesMore : WritesRow more moreText) :
    WritesRow (row ++ more) (text ++ ' ' :: moreText) := by
  intro position rest later delimited splits
  rw [Position.after_append] at splits
  obtain ⟨behind, rfl, splits⟩ := writesMore _ rest later delimited splits
  obtain ⟨before, rfl, splits⟩ :=
    writes position _ _ (.space _) (.spaced rfl splits)
  exact ⟨before ++ behind, List.map_append, by simpa using splits⟩

/-- A comma behind a piece ends it, and a space may follow. -/
theorem listed
    (writes : WritesRow row text)
    (writesMore : WritesRow more moreText) :
    WritesRow (row ++ .bare .comma "," :: more)
      (text ++ ',' :: ' ' :: moreText) := by
  intro position rest later delimited splits
  have comma : Spells .comma ",".toList := .symbol (by decide)
  rw [Position.after_append] at splits
  obtain ⟨behind, rfl, splits⟩ := writesMore _ rest later delimited splits
  obtain ⟨before, rfl, splits⟩ :=
    writes position _ _ (.comma _)
      (.spelled comma (Delimited.space _).endsBefore (.spaced rfl splits))
  refine ⟨before ++ _ :: behind, ?_, by simpa using splits⟩
  simp [Token.unplaced, Token.bare]

/-- A piece in parentheses. -/
theorem enclosed (writes : WritesRow row text) :
    WritesRow (enclosedRow true row) ('(' :: text ++ [')']) := by
  intro position rest later delimited splits
  have opening : Spells .leftParen "(".toList := .symbol (by decide)
  have closing : Spells .rightParen ")".toList := .symbol (by decide)
  rw [Position.after_append] at splits
  obtain ⟨inside, rfl, splits⟩ :=
    writes (position.after ['(']) _ _ (.closing rest)
      (.spelled closing delimited.endsBefore splits)
  refine ⟨_ :: inside ++ [_], ?_, by simpa using Splits.spelled opening trivial splits⟩
  simp [Token.unplaced, Token.bare, enclosedRow]

/-- A piece in the parentheses it needs. -/
theorem enclosedIf
    {written : String}
    (needed : Bool)
    (writes : WritesRow row written.toList) :
    WritesRow (enclosedRow needed row)
      (SelectCypher.enclosedIf needed written).toList := by
  cases needed with
  | false =>
      exact writes
  | true =>
      rw [enclosedIf_true_toList]
      exact writes.enclosed

/-- Text that nothing follows is tokenized as its row and the end of input. -/
theorem tokenize_eq
    {written : String}
    (writes : WritesRow row written.toList) :
    ∃ tokens,
      tokenize written = .ok tokens ∧
        tokens.map Token.unplaced = row ++ [.bare .endOfInput ""] := by
  have finished : Splits (Position.start.after written.toList) [] _ :=
    .finished Layout.lead_nil
  obtain ⟨tokens, rfl, splits⟩ := writes .start [] _ .nil finished
  rw [List.append_nil] at splits
  exact ⟨_, tokenize_eq_ok_iff.mpr splits, List.map_append⟩

end WritesRow

/-! ## Canonical text -/

theorem Connective.spells_word (connective : Connective) :
    Spells (.keyword connective.keyword) connective.word.toList := by
  cases connective <;> exact Keyword.spells_spelling _

theorem Condition.WellFormed.writesRow
    {condition : Condition}
    (wellFormed : condition.WellFormed) :
    WritesRow condition.row condition.canonical.toList := by
  induction condition with
  | comparison column operator value =>
      rw [Condition.canonical_comparison_toList]
      exact ((WritesRow.word wellFormed.1.spells).spaced
        (.word operator.spells_symbol)).spaced (.word wellFormed.2.spells)
  | join connective left right leftHypothesis rightHypothesis =>
      have leftWrites :=
        (leftHypothesis wellFormed.1).enclosedIf
          (left.precedence < connective.precedence)
      have rightWrites :=
        (rightHypothesis wellFormed.2).enclosedIf
          (right.precedence ≤ connective.precedence)
      have whole := (leftWrites.spaced (.word connective.spells_word)).spaced rightWrites
      rw [List.append_assoc] at whole
      rw [Condition.canonical_join_toList]
      exact whole

theorem WritesRow.names
    {names : List Identifier}
    (someNames : names ≠ [])
    (wellFormed : ∀ name ∈ names, name.WellFormed) :
    WritesRow (namesRow names) (Selection.columns names).canonical.toList := by
  induction names using List.reverseRec with
  | nil =>
      exact absurd rfl someNames
  | append_singleton before last inductionHypothesis =>
      have lastWrites := WritesRow.word (wellFormed last (by simp)).spells
      by_cases noneBefore : before = []
      · subst before
        simpa [namesRow, Selection.canonical] using lastWrites
      · have earlier :=
          inductionHypothesis noneBefore fun name member =>
            wellFormed name (List.mem_append_left _ member)
        rw [namesRow_append noneBefore, Selection.canonical_append_toList noneBefore]
        exact earlier.listed lastWrites

theorem Selection.WellFormed.writesRow
    {selection : Selection}
    (wellFormed : selection.WellFormed) :
    WritesRow selection.row selection.canonical.toList := by
  cases selection with
  | everything =>
      have asterisk : Spells .asterisk "*".toList := .symbol (by decide)
      exact .word asterisk
  | columns names =>
      exact .names wellFormed.1 wellFormed.2

/-- A filter behind a piece, if there is one. -/
theorem WritesRow.filtered
    {row : List Token}
    {text : List Char}
    {filter? : Option Condition}
    (writes : WritesRow row text)
    (wellFormed : ∀ condition ∈ filter?, condition.WellFormed) :
    WritesRow (row ++ filterRow filter?) (text ++ (filterText filter?).toList) := by
  cases filter? with
  | none =>
      simpa [filterRow, filterText] using writes
  | some condition =>
      have word := WritesRow.word (Keyword.spells_spelling .whereWord)
      rw [filterText_some_toList]
      exact writes.spaced (word.spaced (wellFormed condition rfl).writesRow)

/-- Canonical text of a well-formed query is tokenized as its row. -/
theorem Query.WellFormed.tokenize_canonical
    {query : Query}
    (wellFormed : query.WellFormed) :
    ∃ tokens,
      tokenize query.canonical = .ok tokens ∧
        tokens.map Token.unplaced = query.row := by
  have select : WritesRow [.bare (.keyword .selectWord) "SELECT"] "SELECT".toList :=
    .word (Keyword.spells_spelling .selectWord)
  have source : WritesRow [.bare (.keyword .fromWord) "FROM"] "FROM".toList :=
    .word (Keyword.spells_spelling .fromWord)
  have opening := (select.spaced wellFormed.selection.writesRow).spaced source
  have whole :=
    (opening.spaced (.word wellFormed.table.spells)).filtered wellFormed.filter?
  rw [← Query.canonical_toList] at whole
  obtain ⟨tokens, tokenized, isRow⟩ := whole.tokenize_eq
  refine ⟨tokens, tokenized, ?_⟩
  simpa [Query.row] using isRow

end SelectCypher
