import SelectCypher.Proofs.Grammar.Sentence

namespace SelectCypher

open Grammar

/-!
# The names of a query

A query has the names that its tokens spell: the columns it selects, its table and
the columns that its condition tests, from left to right.
-/

/-- The names that tokens spell, from left to right. -/
def identifiers (tokens : List Token) : List Identifier :=
  (tokens.filter (·.kind = .identifier)).map fun token => ⟨token.text⟩

@[simp] theorem identifiers_nil : identifiers [] = [] :=
  rfl

@[simp] theorem identifiers_append
    (first second : List Token) :
    identifiers (first ++ second) = identifiers first ++ identifiers second := by
  simp [identifiers]

theorem identifiers_cons
    (token : Token)
    (rest : List Token) :
    identifiers (token :: rest) =
      if token.kind = .identifier then
        ⟨token.text⟩ :: identifiers rest
      else
        identifiers rest := by
  unfold identifiers
  by_cases isName : token.kind = .identifier
  · simp [isName]
  · simp [isName]

/-- The columns that a filter tests, from left to right. -/
def filterColumns : Option Condition → List Identifier
  | none =>
      []
  | some condition =>
      condition.columns

/-- The selected columns, the table and the tested columns, in this order. -/
def Query.names (query : Query) : List Identifier :=
  query.selection.names ++ query.table :: filterColumns query.filter?

namespace Grammar

theorem Denotes.not_identifier
    {token : Token}
    {literal : Literal}
    (denotes : Denotes token literal) :
    token.kind ≠ .identifier := by
  cases denotes with
  | string kind | number kind | truth kind | falsehood kind | null kind =>
      simp [kind]

/-- The names in a condition are the columns it tests. -/
theorem Forms.identifiers_eq
    {layer : Layer}
    {tokens : List Token}
    {condition : Condition}
    (forms : Forms layer tokens condition) :
    identifiers tokens = condition.columns := by
  induction forms with
  | comparison named compares denotes =>
      simp [identifiers_cons, named, compares, denotes.not_identifier,
        Condition.columns]
  | group opens forms closes inductionHypothesis =>
      simp [identifiers_cons, opens, closes, inductionHypothesis]
  | oneOperand forms inductionHypothesis =>
      exact inductionHypothesis
  | and leftForms joins rightForms leftHypothesis rightHypothesis =>
      simp [identifiers_cons, joins, leftHypothesis, rightHypothesis,
        Condition.columns]
  | oneConjunction forms inductionHypothesis =>
      exact inductionHypothesis
  | or leftForms joins rightForms leftHypothesis rightHypothesis =>
      simp [identifiers_cons, joins, leftHypothesis, rightHypothesis,
        Condition.columns]

theorem Lists.identifiers_eq
    {tokens : List Token}
    {names : List Identifier}
    (lists : Lists tokens names) :
    identifiers tokens = names := by
  induction lists with
  | one isName =>
      simp [identifiers_cons, isName]
  | more lists isComma isName inductionHypothesis =>
      simp [identifiers_cons, isComma, isName, inductionHypothesis]

theorem Selects.identifiers_eq
    {tokens : List Token}
    {selection : Selection}
    (selects : Selects tokens selection) :
    identifiers tokens = selection.names := by
  cases selects with
  | everything asterisk =>
      simp [identifiers_cons, asterisk, Selection.names]
  | columns lists =>
      exact lists.identifiers_eq

theorem Filters.identifiers_eq
    {tokens : List Token}
    {filter? : Option Condition}
    (filters : Filters tokens filter?) :
    identifiers tokens = filterColumns filter? := by
  cases filters with
  | absent =>
      rfl
  | present word forms =>
      simp [identifiers_cons, word, forms.identifiers_eq, filterColumns]

/-- The names in a sentence are those of its query. -/
theorem Sentence.identifiers_eq
    {tokens : List Token}
    {query : Query}
    (sentence : Sentence tokens query) :
    identifiers tokens = query.names := by
  cases sentence with
  | query isSelect selects isSource isTable filters isEnd =>
      simp [identifiers_cons, isSelect, isSource, isTable, isEnd,
        selects.identifiers_eq, filters.identifiers_eq, Query.names]

end Grammar

end SelectCypher
