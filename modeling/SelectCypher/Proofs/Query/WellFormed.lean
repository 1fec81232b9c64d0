import SelectCypher.Proofs.Text.LetterCase
import SelectCypher.Proofs.Token.Lexeme
import SelectCypher.Query.Canonical

namespace SelectCypher

/-!
# Well-formed queries

A query can be written down if its names are names and no keywords, its numbers
are numerals and a list of columns names at least one.  The contents of strings
and the shape of the condition are free.
-/

/-- At least one digit, and nothing else. -/
def Text.IsDigits (text : List Char) : Prop :=
  text ≠ [] ∧ ∀ character ∈ text, character.isDigit = true

/-- Digits, or digits on both sides of a point. -/
def Text.IsNumeral (text : List Char) : Prop :=
  IsDigits text ∨
    ∃ whole fraction,
      text = whole ++ '.' :: fraction ∧ IsDigits whole ∧ IsDigits fraction

/-- A name: a letter or underscore, then letters, digits and underscores. -/
structure Identifier.WellFormed (name : Identifier) : Prop where
  isName :
    ∃ first rest,
      name.text.toList = first :: rest ∧ Text.isNameStart first = true ∧
        ∀ character ∈ rest, Text.isNamePart character = true
  notKeyword : Keyword.ofText? name.text = none

/-- Any value, if its number is a numeral. -/
def Literal.WellFormed : Literal → Prop
  | .number digits =>
      Text.IsNumeral digits.toList
  | _ =>
      True

/-- A condition of any shape on well-formed columns and values. -/
def Condition.WellFormed : Condition → Prop
  | .comparison column _ value =>
      column.WellFormed ∧ value.WellFormed
  | .join _ left right =>
      left.WellFormed ∧ right.WellFormed

/-- Everything, or at least one well-formed name. -/
def Selection.WellFormed : Selection → Prop
  | .everything =>
      True
  | .columns names =>
      names ≠ [] ∧ ∀ name ∈ names, name.WellFormed

/-- A query all of whose parts are well formed. -/
structure Query.WellFormed (query : Query) : Prop where
  selection : query.selection.WellFormed
  table : query.table.WellFormed
  filter? : ∀ condition ∈ query.filter?, condition.WellFormed

/-! ## How the parts are spelled -/

open Lexeme

theorem Identifier.WellFormed.spells
    {name : Identifier}
    (wellFormed : name.WellFormed) :
    Spells .identifier name.text.toList := by
  obtain ⟨first, rest, shape, opens, inside⟩ := wellFormed.isName
  have kind : TokenKind.ofWord (String.ofList (first :: rest)) = .identifier := by
    rw [← shape, String.ofList_toList, TokenKind.ofWord, wellFormed.notKeyword]
  have spells : Spells _ (first :: rest) := .word opens inside
  rwa [kind, ← shape] at spells

theorem Text.IsNumeral.spells
    {digits : List Char}
    (isNumeral : Text.IsNumeral digits) :
    Spells .number digits := by
  rcases isNumeral with isDigits | ⟨whole, fraction, rfl, isWhole, isFraction⟩
  · exact .whole isDigits.1 isDigits.2
  · exact .decimal isWhole.1 isWhole.2 isFraction.1 isFraction.2

theorem Operator.spells_symbol (operator : Operator) :
    Spells (.operator operator) operator.symbol.toList := by
  cases operator <;> exact .symbol (by decide)

/-- Texts that agree up to the case of letters are the same keyword, if any. -/
theorem Keyword.ofText?_congr
    {first second : String}
    (same : Text.sameIgnoringCase first second = true) :
    Keyword.ofText? second = Keyword.ofText? first := by
  simp only [Keyword.ofText?, Text.sameIgnoringCase, Text.sameIgnoringCase_iff.mp same]

/-- A keyword is spelled in every letter case. -/
theorem Keyword.spells_of_sameIgnoringCase
    {keyword : Keyword}
    {text : String}
    (same : Text.sameIgnoringCase keyword.spelling text = true) :
    Spells (.keyword keyword) text.toList := by
  have kind : TokenKind.ofWord text = .keyword keyword := by
    rw [TokenKind.ofWord, Keyword.ofText?_congr same]
    cases keyword <;> decide
  have allLetters :
      (Text.folded keyword.spelling).all Char.isAlpha = true ∧
        Text.folded keyword.spelling ≠ [] := by
    cases keyword <;> decide
  rw [Text.sameIgnoringCase_iff.mp same] at allLetters
  have letters : ∀ character ∈ text.toList, character.isAlpha = true := by
    intro character member
    rw [← character.isAlpha_toLower_eq_isAlpha]
    exact List.all_eq_true.mp allLetters.1 _ (List.mem_map_of_mem member)
  cases shape : text.toList with
  | nil =>
      simp [Text.folded, shape] at allLetters
  | cons first rest =>
      rw [shape] at letters
      have opens : Text.isNameStart first = true := by
        simp [Text.isNameStart, letters first (by simp)]
      have inside : ∀ character ∈ rest, Text.isNamePart character = true := by
        intro character member
        have letter := letters character (List.mem_cons_of_mem _ member)
        simp [Text.isNamePart, Char.isAlphanum, letter]
      have spells : Spells _ (first :: rest) := .word opens inside
      rwa [← shape, String.ofList_toList, kind, shape] at spells

/-- A keyword in capitals is spelled as that keyword. -/
theorem Keyword.spells_spelling (keyword : Keyword) :
    Spells (.keyword keyword) keyword.spelling.toList :=
  spells_of_sameIgnoringCase (Text.sameIgnoringCase_iff.mpr rfl)

/-- The kind of the token that canonical text writes for a value. -/
def Literal.tokenKind : Literal → TokenKind
  | .string _ => .stringLiteral
  | .number _ => .number
  | .bool true => .keyword .trueWord
  | .bool false => .keyword .falseWord
  | .null => .keyword .nullWord

theorem Text.quoted_toList (content : String) :
    (Text.quoted content).toList =
      '\'' :: Text.doubled content.toList ++ ['\''] := by
  simp [Text.quoted]

theorem Literal.WellFormed.spells
    {value : Literal}
    (wellFormed : value.WellFormed) :
    Spells value.tokenKind value.canonical.toList := by
  cases value with
  | string content =>
      rw [Literal.canonical, Text.quoted_toList]
      exact .string content.toList
  | number digits =>
      exact Text.IsNumeral.spells wellFormed
  | bool value =>
      cases value
      · exact Keyword.spells_spelling .falseWord
      · exact Keyword.spells_spelling .trueWord
  | null =>
      exact Keyword.spells_spelling .nullWord

end SelectCypher
