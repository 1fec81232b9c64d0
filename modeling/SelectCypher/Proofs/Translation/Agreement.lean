import SelectCypher.Proofs.Grammar.Names
import SelectCypher.Proofs.Query.Reading
import SelectCypher.Proofs.Token.Trim
import SelectCypher.Translation.Basic

namespace SelectCypher

open Grammar

/-!
# Translation agrees with reading

A text that is read as a query is translated as that query, unless one of its
names is the word of an unsupported statement.  Trimming leaves its tokens as
they are, keeps its nesting and cannot lengthen it, and the search for unsupported
words sees the names of the query in their order.
-/

/-! ## Lengths -/

/-- Every character takes at least one byte. -/
theorem length_le_byteLength (text : List Char) :
    text.length ≤ byteLength text := by
  induction text with
  | nil =>
      exact Nat.le_refl 0
  | cons character rest inductionHypothesis =>
      have positive := character.utf8Size_pos
      rw [List.length_cons, byteLength_cons]
      omega

/-- The length limit is one on characters, whatever their bytes. -/
theorem checkLength_eq_ok_iff
    {text : String}
    {limit : Nat} :
    checkLength text limit = .ok () ↔ text.toList.length ≤ limit := by
  have bytes := length_le_byteLength text.toList
  unfold checkLength
  by_cases short : byteLength text.toList ≤ limit
  · rw [if_pos short]
    exact iff_of_true rfl (Nat.le_trans bytes short)
  · rw [if_neg short]
    by_cases long : limit < text.toList.length
    · rw [if_pos long]
      exact iff_of_false (by simp) (Nat.not_le_of_lt long)
    · rw [if_neg long]
      exact iff_of_true rfl (Nat.le_of_not_lt long)

/-- A text that fits within limits still does when trimmed. -/
theorem Limits.checkText_trim
    {limits : Limits}
    {text : String}
    (fits : limits.checkText text = .ok ()) :
    limits.checkText (Text.trim text) = .ok () := by
  unfold checkText at fits ⊢
  cases limited : limits.maxLength? with
  | none =>
      rfl
  | some limit =>
      simp only [limited, checkLength_eq_ok_iff] at fits ⊢
      rcases Text.exists_trim text with ⟨leading, trailing, shape, -, -⟩
      rw [shape, List.length_append, List.length_append] at fits
      omega

/-! ## Trimmed text -/

/-- A text that is read as a query is read as the same query when trimmed. -/
theorem Query.ofText_trim
    {text : String}
    {limits : Limits}
    {query : Query}
    (read : Query.ofText text limits = .ok query) :
    Query.ofText (Text.trim text) limits = .ok query := by
  rw [Query.ofText_eq_ok_iff] at read ⊢
  rcases read with ⟨fits, tokens, tokenized, sentence, within⟩
  rcases tokenize_trim tokenized with ⟨others, otherTokenized, same⟩
  exact ⟨Limits.checkText_trim fits, others, otherTokenized,
    sentence.of_sameTokens same, within.of_kinds same.kinds⟩

/-- No query is an empty text. -/
theorem Query.ofText_empty_ne_ok
    {limits : Limits}
    {query : Query} :
    Query.ofText "" limits ≠ .ok query := by
  intro read
  rcases Query.ofText_eq_ok_iff.mp read with ⟨-, tokens, tokenized, sentence, -⟩
  have splits := tokenize_eq_ok_iff.mp tokenized
  have empty : TokenStream.ofChars .start [] = { tokens := tokens, failure? := none } :=
    splits.ofChars_eq
  rw [TokenStream.ofChars_of_layout Layout.lead_nil] at empty
  simp only [TokenStream.mk.injEq, and_true] at empty
  rw [← empty] at sentence
  have path := sentence.path?_eq
  cases path

/-! ## Unsupported words -/

/-- Words of unsupported statements that differ in more than their case. -/
theorem unsupportedKeywords_differ :
    ∀ word ∈ unsupportedKeywords,
      ∀ other ∈ unsupportedKeywords,
        Text.folded word = Text.folded other → word = other := by
  decide

theorem unsupportedWord?_eq_some_iff
    {name word : String} :
    unsupportedWord? name = some word ↔
      word ∈ unsupportedKeywords ∧ Text.sameIgnoringCase word name = true := by
  constructor
  · intro found
    have same := List.find?_some found
    exact ⟨List.mem_of_find?_eq_some found, same⟩
  · rintro ⟨listed, same⟩
    cases found : unsupportedWord? name with
    | none =>
        have differs := List.find?_eq_none.mp found word listed
        exact absurd same differs
    | some other =>
        have otherListed := List.mem_of_find?_eq_some found
        have otherSame := List.find?_some found
        rw [Text.sameIgnoringCase_iff] at same otherSame
        congr 1
        apply unsupportedKeywords_differ other otherListed word listed
        exact otherSame.trans same.symm

theorem unsupportedWord?_eq_none_iff
    {name : String} :
    unsupportedWord? name = none ↔
      ∀ word ∈ unsupportedKeywords, Text.sameIgnoringCase word name = false := by
  simp [unsupportedWord?, List.find?_eq_none]

/-- The first unsupported word among names. -/
def firstUnsupported? (names : List Identifier) : Option String :=
  names.findSome? fun name => unsupportedWord? name.text

/-- Among tokens the search sees the names only. -/
theorem findSome?_unsupportedWord?
    (tokens : List Token) :
    tokens.findSome? Token.unsupportedWord? =
      firstUnsupported? (identifiers tokens) := by
  induction tokens with
  | nil =>
      rfl
  | cons token rest inductionHypothesis =>
      rw [identifiers_cons, List.findSome?_cons, Token.unsupportedWord?]
      by_cases isName : token.kind = .identifier
      · rw [if_pos isName, if_pos isName, firstUnsupported?, List.findSome?_cons,
          inductionHypothesis]
        rfl
      · rw [if_neg isName, if_neg isName]
        exact inductionHypothesis

/-- In a text that is tokenized the first unsupported name is found. -/
theorem findUnsupported?_of_tokenize
    {text : String}
    {tokens : List Token}
    (tokenized : tokenize text = .ok tokens) :
    findUnsupported? text.toList = firstUnsupported? (identifiers tokens) := by
  have yields :
      (Scanner.ofChars text.toList).stream = { tokens := tokens, failure? := none } :=
    (tokenize_eq_ok_iff.mp tokenized).ofChars_eq
  rw [← findSome?_unsupportedWord?, findUnsupported?]
  cases found : tokens.findSome? Token.unsupportedWord? with
  | some word =>
      simp only [yields, found]
  | none =>
      simp only [yields, found]
      split
      · rename_i rest resumes
        simp [yields, resumeText?] at resumes
      · rfl

/-! ## Translating what is read -/

/-- What a text is refused for, one check behind the other. -/
theorem screen_eq
    (text : String)
    (limits : Limits) :
    screen text limits =
      if (Text.trim text).isEmpty then
        .error .empty
      else
        match limits.checkText (Text.trim text) with
        | .error cause =>
            .error (.query cause)
        | .ok () =>
            match findUnsupported? (Text.trim text).toList with
            | some word =>
                .error (.unsupportedStatement word)
            | none =>
                .ok () := by
  rw [screen]
  split
  · rfl
  · cases limits.checkText (Text.trim text) with
    | error cause =>
        rfl
    | ok fits =>
        cases findUnsupported? (Text.trim text).toList <;> rfl

/-- A text that is read as a query is refused for the first unsupported name only. -/
theorem screen_of_ofText
    {text : String}
    {limits : Limits}
    {query : Query}
    (read : Query.ofText text limits = .ok query) :
    screen text limits =
      match firstUnsupported? query.names with
      | some word =>
          .error (.unsupportedStatement word)
      | none =>
          .ok () := by
  have trimmed := Query.ofText_trim read
  rcases Query.ofText_eq_ok_iff.mp trimmed with
    ⟨fits, tokens, tokenized, sentence, -⟩
  have someLeft : (Text.trim text).isEmpty = false := by
    rw [← Bool.not_eq_true, String.isEmpty_iff]
    intro empty
    rw [empty] at trimmed
    exact Query.ofText_empty_ne_ok trimmed
  rw [screen_eq, someLeft, fits, findUnsupported?_of_tokenize tokenized,
    sentence.identifiers_eq]
  rfl

/-- The unsupported name of a query, or its Cypher text, is what translation gives. -/
theorem translate_eq_of_ofText
    {text : String}
    {limits : Limits}
    {query : Query}
    (read : Query.ofText text limits = .ok query) :
    translate text limits =
      match firstUnsupported? query.names with
      | some word =>
          .error (.unsupportedStatement word)
      | none =>
          .ok { query := Text.trim text, cypher := query.cypher } := by
  have trimmed := Query.ofText_trim read
  have screened := screen_of_ofText trimmed
  rw [translate]
  simp only [screened, trimmed]
  cases firstUnsupported? query.names <;> rfl

theorem firstUnsupported?_eq_none_iff
    {names : List Identifier} :
    firstUnsupported? names = none ↔
      ∀ name ∈ names,
        ∀ word ∈ unsupportedKeywords,
          Text.sameIgnoringCase word name.text = false := by
  simp only [firstUnsupported?, List.findSome?_eq_none_iff,
    unsupportedWord?_eq_none_iff]

theorem firstUnsupported?_append_cons
    {before behind : List Identifier}
    {name : Identifier}
    {word : String}
    (nothingBefore : firstUnsupported? before = none)
    (found : unsupportedWord? name.text = some word) :
    firstUnsupported? (before ++ name :: behind) = some word := by
  unfold firstUnsupported? at nothingBefore ⊢
  rw [List.findSome?_append, nothingBefore, List.findSome?_cons, found]
  rfl

/--
Translating agrees with reading on every text that is read.  The names of the
query are the identifiers of the text in order; without an unsupported word among
them the translation is the trimmed text with the Cypher text of the query, and
otherwise the first unsupported name is the only thing reported.
-/
theorem translate_agrees
    {text : String}
    {limits : Limits}
    {query : Query}
    (read : Query.ofText text limits = .ok query) :
    (∃ tokens, tokenize text = .ok tokens ∧ identifiers tokens = query.names) ∧
      ((∀ name ∈ query.names,
          ∀ word ∈ unsupportedKeywords,
            Text.sameIgnoringCase word name.text = false) →
        translate text limits =
          .ok { query := Text.trim text, cypher := query.cypher }) ∧
      ∀ before name behind word,
        query.names = before ++ name :: behind →
        (∀ earlier ∈ before,
          ∀ other ∈ unsupportedKeywords,
            Text.sameIgnoringCase other earlier.text = false) →
        word ∈ unsupportedKeywords →
        Text.sameIgnoringCase word name.text = true →
        translate text limits = .error (.unsupportedStatement word) := by
  refine ⟨?_, ?_, ?_⟩
  · rcases Query.ofText_eq_ok_iff.mp read with ⟨-, tokens, tokenized, sentence, -⟩
    exact ⟨tokens, tokenized, sentence.identifiers_eq⟩
  · intro supported
    have nothing := firstUnsupported?_eq_none_iff.mpr supported
    rw [translate_eq_of_ofText read, nothing]
  · intro before name behind word shape supported listed same
    have nothingBefore := firstUnsupported?_eq_none_iff.mpr supported
    have found := unsupportedWord?_eq_some_iff.mpr ⟨listed, same⟩
    rw [translate_eq_of_ofText read, shape,
      firstUnsupported?_append_cons nothingBefore found]

/-- A table with the name of a statement is refused, whatever the case of its letters. -/
theorem translate_agrees_unsupported :
    let text := "SELECT a FROM Drop -- \u00a0"
    let query : Query :=
      { selection := .columns [⟨"a"⟩], table := ⟨"Drop"⟩, filter? := none }
    Query.ofText text {} = .ok query ∧
      translate text {} = .error (.unsupportedStatement "DROP") := by
  intro text query
  have read : Query.ofText text {} = .ok query := by
    decide +kernel
  refine ⟨read, ?_⟩
  exact (translate_agrees read).2.2 [⟨"a"⟩] ⟨"Drop"⟩ [] "DROP" rfl (by decide)
    (by decide) (by decide)

end SelectCypher
