import SelectCypher.Proofs.Query.Economy
import SelectCypher.Proofs.Token.Concatenation
import SelectCypher.Proofs.Translation.Length

namespace SelectCypher

open Grammar

/-!
# Canonical text on a line of its own

A line feed behind a text changes no token but the place of its end, and canonical text
nests no deeper than the text its query is read from.  So a query is read again from
its canonical line under the limits it was first read under, unless the line is too
long for them.
-/

/-- A line feed behind a text that has tokens moves nothing but its end. -/
theorem exists_tokenize_lineFeed
    {text : String}
    {tokens : List Token}
    (tokenized : tokenize text = .ok tokens) :
    ∃ others, tokenize (text ++ "\n") = .ok others ∧ SameTokens others tokens := by
  have splits := tokenize_eq_ok_iff.mp tokenized
  obtain ⟨body, rfl, -⟩ := splits.exists_body
  refine ⟨body ++ [.endAt (Position.start.after (text.toList ++ ['\n']))], ?_, ?_⟩
  · have joined : (text ++ "\n").toList = text.toList ++ '\n' :: [] := by
      simp
    rw [tokenize, TokenStream.ofText_eq, joined, splits.ofChars_lineFeed,
      TokenStream.ofChars_of_layout Layout.lead_nil, List.dropLast_concat,
      TokenStream.complete_behind]
    rfl
  · simp [SameTokens, Token.unplaced, Token.endAt]

namespace Query

variable {text : String}
variable {limits : Limits}
variable {query : Query}

/-- Canonical text nests within the limit under which its query was read. -/
theorem nestedWithin_canonical
    {tokens : List Token}
    (read : Query.ofText text limits = .ok query)
    (tokenized : tokenize query.canonical = .ok tokens) :
    NestedWithin limits.maxDepth tokens := by
  obtain ⟨-, given, givenTokenized, -, within⟩ := ofText_eq_ok_iff.mp read
  obtain ⟨others, otherTokenized, row⟩ :=
    (wellFormed_of_ofText read).tokenize_canonical
  rw [tokenized] at otherTokenized
  cases otherTokenized
  obtain ⟨fewer, omits, fewerRow⟩ := thins_of_ofText read givenTokenized
  exact (omits.nestedWithin within).of_kinds (kinds_eq_of_row row fewerRow)

/-- A query that was read is read again from its canonical line, if that fits. -/
theorem ofText_line
    (read : Query.ofText text limits = .ok query)
    (fits :
      ∀ limit ∈ limits.maxLength?, (query.canonical ++ "\n").toList.length ≤ limit) :
    Query.ofText (query.canonical ++ "\n") limits = .ok query := by
  obtain ⟨tokens, tokenized, sentence⟩ := (wellFormed_of_ofText read).sentence_canonical
  have within := nestedWithin_canonical read tokenized
  obtain ⟨others, lineTokenized, same⟩ := exists_tokenize_lineFeed tokenized
  exact ofText_eq_ok_iff.mpr
    ⟨Limits.checkText_eq_ok_iff.mpr fits, others, lineTokenized,
      sentence.of_sameTokens same, within.of_kinds same.kinds⟩

end Query

end SelectCypher
