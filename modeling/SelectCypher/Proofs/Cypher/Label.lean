import SelectCypher.Cypher.Label
import SelectCypher.Proofs.Query.WellFormed
import SelectCypher.Proofs.Text.LetterCase

namespace SelectCypher

open Lexeme

/-!
# Labels of names

The label of a name is the name with other letter case: it is made of the same
kinds of characters, agrees with the name up to the case of letters, and two names
have the same label exactly if they agree up to the case of letters.
-/

namespace Identifier.WellFormed

variable {name other : Identifier}

/-- The characters of a name, which are all of those that names are made of. -/
theorem isNamePart
    (wellFormed : name.WellFormed) :
    ∀ character ∈ name.text.toList, Text.isNamePart character = true := by
  obtain ⟨first, rest, shape, opens, inside⟩ := wellFormed.isName
  rw [shape]
  intro character member
  rcases List.mem_cons.mp member with isFirst | inRest
  · rw [isFirst]
    exact isNamePart_of_isNameStart opens
  · exact inside character inRest

/-- A label is the first character in upper case and the others in lower case. -/
theorem label_toList
    (wellFormed : name.WellFormed)
    {first : Char}
    {rest : List Char}
    (shape : name.text.toList = first :: rest) :
    (Cypher.label name.text).toList = first.toUpper :: rest.map Char.toLower := by
  have ascii : ∀ character ∈ name.text.toList, character.toNat < 128 := by
    intro character member
    have codes := toNat_of_isNamePart (wellFormed.isNamePart character member)
    omega
  rw [shape] at ascii
  have firstUpper : Text.upperCase first = [first.toUpper] :=
    Text.upperCase_of_ascii (ascii first (by simp))
  have restLower : rest.flatMap Text.lowerCase = rest.map Char.toLower := by
    rw [List.map_eq_flatMap]
    apply List.flatMap_congr
    intro character member
    exact Text.lowerCase_of_ascii (ascii character (List.mem_cons_of_mem _ member))
  simp only [Cypher.label, shape, String.toList_ofList, firstUpper, restLower]
  rfl

/-- A label agrees with its name up to the case of letters. -/
theorem folded_label
    (wellFormed : name.WellFormed) :
    Text.folded (Cypher.label name.text) = Text.folded name.text := by
  obtain ⟨first, rest, shape, -, -⟩ := wellFormed.isName
  rw [Text.folded, Text.folded, wellFormed.label_toList shape, shape]
  simp [Function.comp_def]

/-- A label is made of the characters that names are made of. -/
theorem isNamePart_label
    (wellFormed : name.WellFormed) :
    ∀ character ∈ (Cypher.label name.text).toList,
      Text.isNamePart character = true := by
  obtain ⟨first, rest, shape, opens, inside⟩ := wellFormed.isName
  rw [wellFormed.label_toList shape]
  intro character member
  rcases List.mem_cons.mp member with isFirst | inRest
  · rw [isFirst]
    exact Text.isNamePart_toUpper (isNamePart_of_isNameStart opens)
  · obtain ⟨original, inName, rfl⟩ := List.mem_map.mp inRest
    exact Text.isNamePart_toLower (inside original inName)

/-- Names have the same label if they agree up to the case of letters. -/
theorem label_eq_iff
    (wellFormed : name.WellFormed)
    (otherWellFormed : other.WellFormed) :
    Cypher.label name.text = Cypher.label other.text ↔
      Text.sameIgnoringCase name.text other.text = true := by
  rw [Text.sameIgnoringCase_iff]
  constructor
  · intro same
    rw [← wellFormed.folded_label, same, otherWellFormed.folded_label]
  · intro same
    obtain ⟨first, rest, shape, -, -⟩ := wellFormed.isName
    obtain ⟨otherFirst, otherRest, otherShape, -, -⟩ := otherWellFormed.isName
    apply String.toList_injective
    rw [wellFormed.label_toList shape, otherWellFormed.label_toList otherShape]
    simp only [Text.folded, shape, otherShape, List.map_cons, List.cons.injEq] at same
    rw [Text.toUpper_eq_iff.mpr same.1, same.2]

end Identifier.WellFormed

end SelectCypher
