import SelectCypher.Source.Position

namespace SelectCypher

/-!
# Cutting a text at a byte offset

A text can be cut only where a character ends.  Behind at least one byte less of
the text is left.
-/

/-- What is left of a text behind a number of bytes, if a character ends there. -/
def dropBytes?
    (count : Nat)
    (text : List Char) :
    Option (List Char) :=
  match text with
  | [] =>
      if count = 0 then some [] else none
  | character :: rest =>
      if count = 0 then
        some (character :: rest)
      else if character.utf8Size ≤ count then
        dropBytes? (count - character.utf8Size) rest
      else
        none

/-- Cutting behind the bytes of a text leaves what follows the text. -/
theorem dropBytes?_byteLength
    (text rest : List Char) :
    dropBytes? (byteLength text) (text ++ rest) = some rest := by
  induction text with
  | nil =>
      cases rest <;> simp [dropBytes?]
  | cons character later inductionHypothesis =>
      have positive := character.utf8Size_pos
      rw [byteLength_cons, List.cons_append, dropBytes?, if_neg (by omega),
        if_pos (by omega), Nat.add_sub_cancel_left, inductionHypothesis]

/-- A cut behind at least one byte shortens a text. -/
theorem dropBytes?_shortens
    {count : Nat}
    {text rest : List Char}
    (positive : 0 < count)
    (cut : dropBytes? count text = some rest) :
    rest.length < text.length := by
  induction text generalizing count with
  | nil =>
      simp [dropBytes?, show count ≠ 0 by omega] at cut
  | cons character later inductionHypothesis =>
      rw [dropBytes?] at cut
      simp only [show count ≠ 0 by omega, ↓reduceIte] at cut
      split at cut
      · by_cases exact : count - character.utf8Size = 0
        · have whole : rest = later := by
            cases later <;> simp [dropBytes?, exact] at cut <;> simp [cut]
          simp [whole]
        · have shorter := inductionHypothesis (by omega) cut
          simp only [List.length_cons]
          omega
      · simp at cut

end SelectCypher
