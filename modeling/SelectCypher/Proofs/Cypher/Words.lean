import SelectCypher.Proofs.Cypher.Strings
import SelectCypher.Proofs.Translation.Agreement

namespace SelectCypher

open Cypher Lexeme

/-!
# Words in Cypher text

A word is a longest row of letters, digits and underscores outside strings.  Joining
two texts makes no new word where one of them ends or begins with another character,
so the words of a query's Cypher text are those of its fixed parts, its numbers, its
columns and the label of its table.
-/

namespace Cypher

/-- Whether words end before this character outside strings. -/
def separates (place : Option Char) : Bool :=
  !place.any Text.isNamePart

/-- A longest row of letters, digits and underscores outside strings. -/
structure IsWord
    (text : List (Option Char))
    (word : List Char) :
    Prop where
  nonempty : word ≠ []
  inside : ∀ character ∈ word, Text.isNamePart character = true
  longest :
    ∃ before behind,
      text = before ++ (word.map some ++ behind) ∧
        (∀ last ∈ before.getLast?, separates last = true) ∧
        ∀ next ∈ behind.head?, separates next = true

/--
A text that splits into pieces none of which begins an unsupported statement.  It
can be decided for the fixed parts of Cypher text.
-/
def Harmless (text : List (Option Char)) : Prop :=
  ∀ piece ∈ text.splitOnP separates,
    unsupportedWord? (String.ofList piece.reduceOption) = none

instance {text : List (Option Char)} : Decidable (Harmless text) :=
  inferInstanceAs (Decidable (∀ piece ∈ text.splitOnP separates,
    unsupportedWord? (String.ofList piece.reduceOption) = none))

theorem separates_of_mem_map
    {word : List Char}
    {place : Option Char}
    (inside : ∀ character ∈ word, Text.isNamePart character = true)
    (member : place ∈ word.map some) :
    separates place = false := by
  obtain ⟨character, inWord, rfl⟩ := List.mem_map.mp member
  simp [separates, inside character inWord]

theorem reduceOption_map_some (word : List Char) :
    (word.map some).reduceOption = word := by
  simp [List.reduceOption, List.filterMap_map]

/-- A text is split before its first separator. -/
theorem head_mem_splitOnP
    {run behind : List (Option Char)}
    (inside : ∀ place ∈ run, separates place = false)
    (behindStops : ∀ next ∈ behind.head?, separates next = true) :
    run ∈ (run ++ behind).splitOnP separates := by
  cases behind with
  | nil =>
      rw [List.append_nil, List.splitOnP_eq_singleton inside]
      exact List.mem_singleton_self run
  | cons next rest =>
      rw [List.splitOnP_append_cons_of_forall_mem inside next (behindStops next rfl)]
      exact List.mem_cons_self

/-- A text is split around each of its words. -/
theorem IsWord.mem_splitOnP
    {text : List (Option Char)}
    {word : List Char}
    (isWord : IsWord text word) :
    word.map some ∈ text.splitOnP separates := by
  obtain ⟨-, inside, before, behind, rfl, beforeStops, behindStops⟩ := isWord
  have found :=
    head_mem_splitOnP (fun _ member => separates_of_mem_map inside member) behindStops
  rcases List.eq_nil_or_concat before with rfl | ⟨front, last, rfl⟩
  · exact found
  · rw [List.concat_eq_append, List.append_assoc, List.singleton_append,
      List.splitOnP_append_cons front _ (beforeStops last (by simp))]
    exact List.mem_append_right _ found

/-- None of the words of a harmless text begins an unsupported statement. -/
theorem Harmless.unsupportedWord?_eq_none
    {text : List (Option Char)}
    {word : List Char}
    (harmless : Harmless text)
    (isWord : IsWord text word) :
    unsupportedWord? (String.ofList word) = none := by
  have supported := harmless _ isWord.mem_splitOnP
  rwa [reduceOption_map_some] at supported

/-- The words around a separator stand before or behind it. -/
theorem harmless_append_cons_iff
    {first second : List (Option Char)}
    {separator : Option Char}
    (stops : separates separator = true) :
    Harmless (first ++ separator :: second) ↔ Harmless first ∧ Harmless second := by
  simp only [Harmless, List.splitOnP_append_cons first second stops, List.forall_mem_append]

theorem harmless_cons_iff
    {rest : List (Option Char)}
    {separator : Option Char}
    (stops : separates separator = true) :
    Harmless (separator :: rest) ↔ Harmless rest := by
  have whole := @harmless_append_cons_iff [] rest separator stops
  rwa [List.nil_append, and_iff_right (by decide)] at whole

namespace Harmless

variable {first second : List (Option Char)}

/-- Joined texts of which the first ends with a separator. -/
theorem append
    (firstHarmless : Harmless first)
    (secondHarmless : Harmless second)
    (ends : first.getLast?.all separates = true) :
    Harmless (first ++ second) := by
  rcases List.eq_nil_or_concat first with rfl | ⟨front, last, rfl⟩
  · exact secondHarmless
  · have stops : separates last = true := by
      simpa using ends
    rw [List.concat_eq_append] at firstHarmless ⊢
    rw [List.append_assoc, List.singleton_append, harmless_append_cons_iff stops]
    exact ⟨((harmless_append_cons_iff stops).mp firstHarmless).1, secondHarmless⟩

/-- A row of letters, digits and underscores that is no unsupported word. -/
theorem run
    {text : List Char}
    (inside : ∀ character ∈ text, Text.isNamePart character = true)
    (supported : unsupportedWord? (String.ofList text) = none) :
    Harmless (text.map some) := by
  have whole : (text.map some).splitOnP separates = [text.map some] :=
    List.splitOnP_eq_singleton fun _ member => separates_of_mem_map inside member
  rw [Harmless, whole, List.forall_mem_singleton, reduceOption_map_some]
  exact supported

end Harmless

end Cypher

/-! ## The parts of a query -/

theorem unsupportedWord?_congr
    {name other : String}
    (same : Text.folded name = Text.folded other) :
    unsupportedWord? name = unsupportedWord? other := by
  simp only [unsupportedWord?, Text.sameIgnoringCase, same]

/-- Unsupported words are made of letters. -/
theorem isAlpha_unsupportedKeywords :
    ∀ word ∈ unsupportedKeywords, (Text.folded word).all Char.isAlpha = true := by
  decide

/-- Digits are no unsupported word. -/
theorem Text.IsDigits.unsupportedWord?_eq_none
    {digits : List Char}
    (isDigits : Text.IsDigits digits) :
    unsupportedWord? (String.ofList digits) = none := by
  obtain ⟨first, rest, rfl⟩ := List.exists_cons_of_ne_nil isDigits.1
  have digit := isDigits.2 first List.mem_cons_self
  rw [unsupportedWord?_eq_none_iff]
  intro word listed
  rw [Bool.eq_false_iff, Ne, Text.sameIgnoringCase_iff]
  intro same
  have letter : first.toLower.isAlpha = true := by
    have letters := isAlpha_unsupportedKeywords word listed
    rw [same] at letters
    apply List.all_eq_true.mp letters
    simp [Text.folded]
  rw [first.isAlpha_toLower_eq_isAlpha] at letter
  have letterCode := toNat_of_isAlpha letter
  have digitCode : first.toNat ≤ 57 := (Char.isDigit_iff_toNat.mp digit).2
  omega

theorem Text.IsDigits.harmless
    {digits : List Char}
    (isDigits : Text.IsDigits digits) :
    Harmless (digits.map some) :=
  .run (fun digit member => isNamePart_of_isDigit (isDigits.2 digit member))
    isDigits.unsupportedWord?_eq_none

theorem Text.IsNumeral.harmless
    {digits : List Char}
    (isNumeral : Text.IsNumeral digits) :
    Harmless (digits.map some) := by
  rcases isNumeral with isDigits | ⟨whole, fraction, rfl, isWhole, isFraction⟩
  · exact isDigits.harmless
  · rw [List.map_append, List.map_cons, harmless_append_cons_iff (by decide)]
    exact ⟨isWhole.harmless, isFraction.harmless⟩

theorem Literal.WellFormed.harmless
    {value : Literal}
    (wellFormed : value.WellFormed) :
    Harmless (outline value.items) := by
  cases value with
  | string content =>
      exact show Harmless [none] by decide
  | number digits =>
      have numeral : Harmless (digits.toList.map some) := Text.IsNumeral.harmless wellFormed
      rwa [← outline_plainItems] at numeral
  | bool value =>
      cases value <;> decide
  | null =>
      decide

/-- A property is harmless if its name is. -/
theorem Cypher.harmless_property
    {name : Identifier}
    (wellFormed : name.WellFormed)
    (supported : unsupportedWord? name.text = none) :
    Harmless ((property name).toList.map some) := by
  have nameHarmless : Harmless (name.text.toList.map some) :=
    .run wellFormed.isNamePart (by rwa [String.ofList_toList])
  have nodeHarmless : Harmless ("n.".toList.map some) := by
    decide
  rw [property, String.toList_append, List.map_append]
  exact nodeHarmless.append nameHarmless (by decide)

theorem Condition.WellFormed.harmless
    {condition : Condition}
    (wellFormed : condition.WellFormed)
    (supported : ∀ name ∈ condition.columns, unsupportedWord? name.text = none) :
    Harmless (outline condition.items) := by
  induction condition with
  | comparison column operator value =>
      have columnHarmless :=
        harmless_property wellFormed.1 (supported column (by simp [Condition.columns]))
      have operatorHarmless : Harmless (operator.symbol.toList.map some) := by
        cases operator <;> decide
      simp (disch := decide) [Condition.items, harmless_append_cons_iff, columnHarmless,
        operatorHarmless, wellFormed.2.harmless]
  | join connective left right leftHypothesis rightHypothesis =>
      simp only [Condition.columns, List.forall_mem_append] at supported
      have wordHarmless : Harmless (connective.word.toList.map some) := by
        cases connective <;> decide
      have endHarmless : Harmless [] := by
        decide
      simp (disch := decide) [Condition.items, harmless_append_cons_iff,
        harmless_cons_iff, wordHarmless, leftHypothesis wellFormed.1 supported.1,
        rightHypothesis wellFormed.2 supported.2, endHarmless]

/-! ## The whole query -/

/-- Further columns, each behind a comma, are harmless if their names are. -/
theorem Cypher.harmless_columns
    {row : List Char}
    {names : List Identifier}
    (rowHarmless : Harmless (row.map some))
    (nameForm : ∀ name ∈ names, name.WellFormed)
    (supported : ∀ name ∈ names, unsupportedWord? name.text = none) :
    Harmless ((row ++ furtherColumns names).map some) := by
  induction names generalizing row with
  | nil =>
      rwa [furtherColumns, List.flatMap_nil, List.append_nil]
  | cons first later inductionHypothesis =>
      rw [List.forall_mem_cons] at nameForm supported
      have firstHarmless := harmless_property nameForm.1 supported.1
      have rest := inductionHypothesis firstHarmless nameForm.2 supported.2
      simpa (disch := decide) [furtherColumns_cons, harmless_append_cons_iff,
        harmless_cons_iff, rowHarmless] using rest

theorem Selection.WellFormed.harmless
    {selection : Selection}
    (wellFormed : selection.WellFormed)
    (supported : ∀ name ∈ selection.names, unsupportedWord? name.text = none) :
    Harmless (selection.cypher.toList.map some) := by
  cases selection with
  | everything =>
      decide
  | columns names =>
      obtain ⟨someNames, nameForm⟩ := wellFormed
      obtain ⟨first, more, rfl⟩ := List.exists_cons_of_ne_nil someNames
      simp only [Selection.names, List.forall_mem_cons] at nameForm supported
      have firstHarmless := harmless_property nameForm.1 supported.1
      rw [Selection.cypher_columns]
      exact harmless_columns firstHarmless nameForm.2 supported.2

theorem Cypher.harmless_filterItems
    {filter? : Option Condition}
    (wellFormed : ∀ condition ∈ filter?, condition.WellFormed)
    (supported : ∀ name ∈ filterColumns filter?, unsupportedWord? name.text = none) :
    Harmless (outline (filterItems filter?)) := by
  cases filter? with
  | none =>
      decide
  | some condition =>
      have conditionHarmless := (wellFormed condition rfl).harmless supported
      rw [filterItems, outline_append, outline_plainItems]
      exact Harmless.append (by decide) conditionHarmless (by decide)

/-- The text around the strings of a query without unsupported names is harmless. -/
theorem Query.WellFormed.harmless
    {query : Query}
    (wellFormed : query.WellFormed)
    (supported : firstUnsupported? query.names = none) :
    Harmless (outline query.items) := by
  simp only [firstUnsupported?, List.findSome?_eq_none_iff, Query.names,
    List.forall_mem_append, List.forall_mem_cons] at supported
  obtain ⟨selected, table, filtered⟩ := supported
  have tableHarmless : Harmless ((label query.table.text).toList.map some) := by
    apply Harmless.run wellFormed.table.isNamePart_label
    rw [String.ofList_toList, ← table]
    exact unsupportedWord?_congr wellFormed.table.folded_label
  have filterHarmless := harmless_filterItems wellFormed.filter? filtered
  have selectionHarmless := wellFormed.selection.harmless selected
  have shape :
      outline query.items =
        "MATCH (n:".toList.map some ++
          ((label query.table.text).toList.map some ++ some ')' ::
            (outline (filterItems query.filter?) ++ some '\n' ::
              ("RETURN ".toList.map some ++ query.selection.cypher.toList.map some))) := by
    simp [Query.items]
  rw [shape]
  apply Harmless.append (by decide) _ (by decide)
  rw [harmless_append_cons_iff (by decide), harmless_append_cons_iff (by decide)]
  exact ⟨tableHarmless, filterHarmless, .append (by decide) selectionHarmless (by decide)⟩

end SelectCypher
