import SelectCypher.Proofs.Query.Reading
import SelectCypher.Proofs.Token.Form

namespace SelectCypher

open Grammar

/-!
# Queries that are read are well formed

The tokens of a text have the forms of their kinds, and the grammar takes over
names and numbers as they stand.  So a query that is read from a text has names
that are no keywords, numerals as its numbers, and lists at least one column unless
it asks for everything.
-/

namespace Grammar

theorem Denotes.wellFormed
    {token : Token}
    {literal : Literal}
    (denotes : Denotes token literal)
    (formed : token.kind.HasForm token.text) :
    literal.WellFormed := by
  cases denotes with
  | number kind =>
      rw [kind] at formed
      exact formed
  | _ =>
      trivial

/-- A token that is a name stands for a well-formed one. -/
theorem wellFormed_of_identifier
    {token : Token}
    (isName : token.kind = .identifier)
    (formed : token.kind.HasForm token.text) :
    Identifier.WellFormed ⟨token.text⟩ := by
  rw [isName] at formed
  exact formed

theorem Forms.wellFormed
    {layer : Layer}
    {tokens : List Token}
    {condition : Condition}
    (forms : Forms layer tokens condition)
    (formed : ∀ token ∈ tokens, token.kind.HasForm token.text) :
    condition.WellFormed := by
  induction forms with
  | comparison named compares denotes =>
      simp only [List.forall_mem_cons] at formed
      obtain ⟨columnForm, -, valueForm, -⟩ := formed
      exact ⟨wellFormed_of_identifier named columnForm, denotes.wellFormed valueForm⟩
  | group opens forms closes inductionHypothesis =>
      simp only [List.forall_mem_append, List.forall_mem_cons] at formed
      exact inductionHypothesis formed.1.2
  | oneOperand forms inductionHypothesis =>
      exact inductionHypothesis formed
  | oneConjunction forms inductionHypothesis =>
      exact inductionHypothesis formed
  | and leftForms joins rightForms leftHypothesis rightHypothesis =>
      simp only [List.forall_mem_append, List.forall_mem_cons] at formed
      exact ⟨leftHypothesis formed.1, rightHypothesis formed.2.2⟩
  | or leftForms joins rightForms leftHypothesis rightHypothesis =>
      simp only [List.forall_mem_append, List.forall_mem_cons] at formed
      exact ⟨leftHypothesis formed.1, rightHypothesis formed.2.2⟩

theorem Lists.wellFormed
    {tokens : List Token}
    {names : List Identifier}
    (lists : Lists tokens names)
    (formed : ∀ token ∈ tokens, token.kind.HasForm token.text) :
    names ≠ [] ∧ ∀ name ∈ names, name.WellFormed := by
  induction lists with
  | one isName =>
      simp only [List.forall_mem_cons] at formed
      refine ⟨by simp, ?_⟩
      intro name member
      rw [List.mem_singleton.mp member]
      exact wellFormed_of_identifier isName formed.1
  | more lists isComma isName inductionHypothesis =>
      simp only [List.forall_mem_append, List.forall_mem_cons] at formed
      obtain ⟨listForm, -, nameForm, -⟩ := formed
      refine ⟨by simp, ?_⟩
      intro name member
      rcases List.mem_append.mp member with inList | isLast
      · exact (inductionHypothesis listForm).2 name inList
      · rw [List.mem_singleton.mp isLast]
        exact wellFormed_of_identifier isName nameForm

theorem Selects.wellFormed
    {tokens : List Token}
    {selection : Selection}
    (selects : Selects tokens selection)
    (formed : ∀ token ∈ tokens, token.kind.HasForm token.text) :
    selection.WellFormed := by
  cases selects with
  | everything asterisk =>
      trivial
  | columns lists =>
      exact lists.wellFormed formed

theorem Filters.wellFormed
    {tokens : List Token}
    {filter? : Option Condition}
    (filters : Filters tokens filter?)
    (formed : ∀ token ∈ tokens, token.kind.HasForm token.text) :
    ∀ condition ∈ filter?, condition.WellFormed := by
  cases filters with
  | absent =>
      intro condition member
      cases member
  | present word forms =>
      intro condition member
      cases member
      apply forms.wellFormed
      intro token inside
      exact formed token (List.mem_cons_of_mem _ inside)

/-- A sentence of tokens with the forms of their kinds is a well-formed query. -/
theorem Sentence.wellFormed
    {tokens : List Token}
    {query : Query}
    (sentence : Sentence tokens query)
    (formed : ∀ token ∈ tokens, token.kind.HasForm token.text) :
    query.WellFormed := by
  cases sentence with
  | query isSelect selects isSource isTable filters isEnd =>
      simp only [List.cons_append, List.forall_mem_cons,
        List.forall_mem_append] at formed
      obtain ⟨-, ⟨selectedForm, -, tableForm, filteredForm⟩, -⟩ := formed
      exact {
        selection := selects.wellFormed selectedForm
        table := wellFormed_of_identifier isTable tableForm
        filter? := filters.wellFormed filteredForm }

end Grammar

/-- The tokens of a text have the forms of their kinds. -/
theorem hasForm_of_tokenize
    {text : String}
    {tokens : List Token}
    (tokenized : tokenize text = .ok tokens) :
    ∀ token ∈ tokens, token.kind.HasForm token.text :=
  (tokenize_eq_ok_iff.mp tokenized).hasForm

/-- A query that is read from a text is well formed. -/
theorem Query.wellFormed_of_ofText
    {text : String}
    {limits : Limits}
    {query : Query}
    (read : Query.ofText text limits = .ok query) :
    query.WellFormed := by
  obtain ⟨-, tokens, tokenized, sentence, -⟩ := Query.ofText_eq_ok_iff.mp read
  exact sentence.wellFormed (hasForm_of_tokenize tokenized)

end SelectCypher
