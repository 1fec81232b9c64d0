import SelectCypher.Proofs.Cypher.Words
import SelectCypher.Proofs.Query.Formed

namespace SelectCypher

open Cypher

/-!
# Strings stay strings in translations

Whatever its strings hold, the Cypher text of a translation is read to its end with
exactly these strings, the text around them is that of every other translation whose
query differs in strings only, and no word around them begins an unsupported
statement.
-/

/-- White space around a text does not change its translation. -/
theorem translate_trim
    (text : String)
    (limits : Limits) :
    translate (Text.trim text) limits = translate text limits := by
  rw [translate, translate, Text.trim_trim]

/-- What is translated was read, and none of its names is an unsupported word. -/
theorem exists_query_of_translate
    {text : String}
    {limits : Limits}
    {translation : Translation}
    (translated : translate text limits = .ok translation) :
    ∃ query : Query,
      Query.ofText translation.query limits = .ok query ∧
        firstUnsupported? query.names = none ∧
        translation.cypher = query.cypher := by
  cases read : Query.ofText (Text.trim text) limits with
  | error failure =>
      rw [translate, read] at translated
      cases screened : screen (Text.trim text) limits with
      | error refusal | ok _ =>
          rw [screened] at translated
          cases translated
  | ok query =>
      rw [← translate_trim, translate_eq_of_ofText read, Text.trim_trim] at translated
      cases supported : firstUnsupported? query.names with
      | some word =>
          rw [supported] at translated
          cases translated
      | none =>
          rw [supported] at translated
          cases translated
          exact ⟨query, read, supported, rfl⟩

/-- The Cypher text of a translated query is read as the items of the query. -/
theorem readItems_of_translate
    {text : String}
    {limits : Limits}
    {translation : Translation}
    {query : Query}
    (translated : translate text limits = .ok translation)
    (read : Query.ofText translation.query limits = .ok query) :
    readItems translation.cypher.toList = some query.items := by
  obtain ⟨found, foundRead, -, written⟩ := exists_query_of_translate translated
  rw [read] at foundRead
  cases foundRead
  rw [written]
  exact (Query.wellFormed_of_ofText read).readItems_cypher

/-- A translation that keeps the strings of its query apart from everything else. -/
structure Translation.Confines
    (translation : Translation)
    (query : Query)
    (items : List Item) :
    Prop where
  /-- The Cypher text is read to its end with every string closed. -/
  closed : readItems translation.cypher.toList = some items
  /-- Its strings are those of the filter, from left to right. -/
  strings : literals items = (filterStrings query.filter?).map String.toList
  /-- The text around the strings is shared by all queries that differ in strings only. -/
  shared :
    ∀ text limits other otherQuery otherItems,
      translate text limits = .ok other →
      Query.ofText other.query limits = .ok otherQuery →
      readItems other.cypher.toList = some otherItems →
      otherQuery.blanked = query.blanked →
      outline otherItems = outline items
  /-- No word around the strings begins an unsupported statement. -/
  words :
    ∀ word,
      IsWord (outline items) word →
      ∀ keyword ∈ unsupportedKeywords,
        Text.sameIgnoringCase keyword (String.ofList word) = false

/--
No string of a query becomes a part of its structure: each translation comes from a
query that was read, and confines the strings of that query.
-/
theorem translate_confines
    {text : String}
    {limits : Limits}
    {translation : Translation}
    (translated : translate text limits = .ok translation) :
    ∃ query items,
      Query.ofText translation.query limits = .ok query ∧
        translation.Confines query items := by
  obtain ⟨query, read, supported, -⟩ := exists_query_of_translate translated
  have wellFormed := Query.wellFormed_of_ofText read
  refine ⟨query, query.items, read, ?_⟩
  exact {
    closed := readItems_of_translate translated read
    strings := query.literals_items
    shared := by
      intro otherText otherLimits other otherQuery otherItems otherTranslated otherRead
        otherClosed same
      rw [readItems_of_translate otherTranslated otherRead] at otherClosed
      cases otherClosed
      rw [← otherQuery.outline_blanked, same, query.outline_blanked]
    words := by
      intro word isWord
      apply unsupportedWord?_eq_none_iff.mp
      exact (wellFormed.harmless supported).unsupportedWord?_eq_none isWord }

/-- A string with quotes, a backslash and the words of another statement. -/
theorem translate_confines_quoted :
    let text := " SELECT a FROM dropped WHERE b = '\\'' OR 1; DROP' AND c <> 1.5\n"
    let translation : Translation :=
      { query := "SELECT a FROM dropped WHERE b = '\\'' OR 1; DROP' AND c <> 1.5"
        cypher :=
          "MATCH (n:Dropped)\nWHERE (n.b = '\\\\\\' OR 1; DROP' AND n.c <> 1.5)\nRETURN n.a" }
    translate text {} = .ok translation ∧
      ∃ query items,
        Query.ofText translation.query {} = .ok query ∧
          translation.Confines query items := by
  intro text translation
  have translated : translate text {} = .ok translation := by decide +kernel
  exact ⟨translated, translate_confines translated⟩

end SelectCypher
