namespace SelectCypher.Text

/-!
# Words and names

Names and keywords are made of ASCII letters, digits and underscores.  Words are
compared without regard to the case of ASCII letters; all other characters must
agree exactly.
-/

/-- An ASCII letter or an underscore may open a name. -/
def isNameStart (character : Char) : Bool :=
  character.isAlpha || character = '_'

/-- ASCII letters, digits and underscores may stand inside a name. -/
def isNamePart (character : Char) : Bool :=
  character.isAlphanum || character = '_'

/-- The characters of a text with its ASCII letters in lower case. -/
def folded (text : String) : List Char :=
  text.toList.map Char.toLower

/-- Equality of texts up to the case of ASCII letters. -/
def sameIgnoringCase
    (first second : String) :
    Bool :=
  folded first == folded second

theorem sameIgnoringCase_iff
    {first second : String} :
    sameIgnoringCase first second = true ↔
      folded first = folded second := by
  simp [sameIgnoringCase]

end SelectCypher.Text
