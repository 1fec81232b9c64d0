import Mathlib
import SelectCypher.Text.Ascii

namespace SelectCypher.Text

/-!
# The case of ASCII letters

Texts that agree up to the case of ASCII letters agree in capitals, and the other
way round.
-/

/-- A text with its ASCII letters in capitals. -/
def capitals (text : String) : String :=
  String.ofList (text.toList.map Char.toUpper)

/-- Characters agree in capitals if they agree in small letters. -/
theorem toUpper_eq_iff
    {first second : Char} :
    first.toUpper = second.toUpper ↔ first.toLower = second.toLower := by
  constructor
  · intro same
    rw [← first.toLower_toUpper_eq_toLower, same, second.toLower_toUpper_eq_toLower]
  · intro same
    rw [← first.toUpper_toLower_eq_toUpper, same, second.toUpper_toLower_eq_toUpper]

/-- Texts that agree up to the case of letters are the same in capitals. -/
theorem capitals_eq_of_sameIgnoringCase
    {first second : String}
    (same : sameIgnoringCase first second = true) :
    capitals first = capitals second := by
  have upperOfLower :
      ∀ text : String,
        text.toList.map Char.toUpper = (folded text).map Char.toUpper := by
    intro text
    simp [folded, Function.comp_def]
  rw [sameIgnoringCase_iff] at same
  rw [capitals, capitals, upperOfLower, upperOfLower, same]

/-- A change of case keeps the characters that names are made of. -/
theorem isNamePart_toUpper
    {character : Char}
    (inside : isNamePart character = true) :
    isNamePart character.toUpper = true := by
  by_cases letter : character.isAlpha = true
  · have upperLetter : character.toUpper.isAlpha = true := by
      rw [character.isAlpha_toUpper_eq_isAlpha, letter]
    simp [isNamePart, Char.isAlphanum, upperLetter]
  · have unchanged : character.toUpper = character := by
      apply Char.toUpper_eq_of_not_isLower
      intro lower
      exact letter (by simp [Char.isAlpha, lower])
    rw [unchanged, inside]

theorem isNamePart_toLower
    {character : Char}
    (inside : isNamePart character = true) :
    isNamePart character.toLower = true := by
  by_cases letter : character.isAlpha = true
  · have lowerLetter : character.toLower.isAlpha = true := by
      rw [character.isAlpha_toLower_eq_isAlpha, letter]
    simp [isNamePart, Char.isAlphanum, lowerLetter]
  · have unchanged : character.toLower = character := by
      apply Char.toLower_eq_of_not_isUpper
      intro upper
      exact letter (by simp [Char.isAlpha, upper])
    rw [unchanged, inside]

end SelectCypher.Text
