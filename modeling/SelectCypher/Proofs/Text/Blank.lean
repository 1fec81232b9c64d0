import SelectCypher.Text.Blank

namespace SelectCypher.Text

/-!
# Trimmed text

A text is its trimmed form between two rows of white space.  The trimmed form
begins and ends with other characters, so trimming it again changes nothing.
-/

/-- Nothing is dropped in front of a character that is kept. -/
theorem dropWhile_eq_self
    {drops : Char → Bool}
    {text : List Char}
    (kept : ∀ first ∈ text.head?, drops first = false) :
    text.dropWhile drops = text := by
  cases text with
  | nil =>
      rfl
  | cons first rest =>
      rw [List.dropWhile_cons_of_neg]
      simp [kept first rfl]

theorem head?_dropWhile
    {drops : Char → Bool}
    {text : List Char}
    {first : Char}
    (isFirst : first ∈ (text.dropWhile drops).head?) :
    drops first = false := by
  have stops := List.head?_dropWhile_not drops text
  rw [Option.mem_def.mp isFirst] at stops
  exact stops

/-- What is dropped at the end of a text is white space. -/
theorem exists_blankEnd (text : List Char) :
    ∃ blanks,
      text = dropBlankEnd text ++ blanks ∧
        ∀ character ∈ blanks, isBlank character = true := by
  refine ⟨(text.reverse.takeWhile isBlank).reverse, ?_, ?_⟩
  · rw [dropBlankEnd, ← List.reverse_append, List.takeWhile_append_dropWhile,
      List.reverse_reverse]
  · intro character member
    exact List.all_eq_true.mp List.all_takeWhile character
      (List.mem_reverse.mp member)

/-- A text is its trimmed form between white space. -/
theorem exists_trim (text : String) :
    ∃ leading trailing,
      text.toList = leading ++ ((trim text).toList ++ trailing) ∧
        (∀ character ∈ leading, isBlank character = true) ∧
        ∀ character ∈ trailing, isBlank character = true := by
  obtain ⟨trailing, shape, blank⟩ :=
    exists_blankEnd (text.toList.dropWhile isBlank)
  refine ⟨text.toList.takeWhile isBlank, trailing, ?_, ?_, blank⟩
  · rw [trim, String.toList_ofList, ← shape, List.takeWhile_append_dropWhile]
  · exact List.all_eq_true.mp List.all_takeWhile

theorem dropBlankEnd_dropBlankEnd (text : List Char) :
    dropBlankEnd (dropBlankEnd text) = dropBlankEnd text := by
  unfold dropBlankEnd
  rw [List.reverse_reverse, dropWhile_eq_self fun first => head?_dropWhile]

/-- Trimming a trimmed text changes nothing. -/
theorem trim_trim (text : String) :
    trim (trim text) = trim text := by
  have begins :
      ∀ first ∈ (dropBlankEnd (text.toList.dropWhile isBlank)).head?,
        isBlank first = false := by
    obtain ⟨trailing, shape, -⟩ :=
      exists_blankEnd (text.toList.dropWhile isBlank)
    intro first isFirst
    refine @head?_dropWhile isBlank text.toList first ?_
    rw [shape, List.head?_append, Option.mem_def.mp isFirst]
    rfl
  rw [trim, trim, String.toList_ofList, dropWhile_eq_self begins,
    dropBlankEnd_dropBlankEnd]

/-- White space put around a text is trimmed off with the text's own. -/
theorem trim_padded
    {leading trailing : List Char}
    (text : String)
    (leadBlank : ∀ character ∈ leading, isBlank character = true)
    (trailBlank : ∀ character ∈ trailing, isBlank character = true) :
    trim (String.ofList (leading ++ text.toList ++ trailing)) = trim text := by
  have dropEnd : ∀ kept, dropBlankEnd (kept ++ trailing) = dropBlankEnd kept := by
    intro kept
    rw [dropBlankEnd, dropBlankEnd, List.reverse_append,
      List.dropWhile_append_of_pos]
    simpa using trailBlank
  have onlyTrailing : trailing.dropWhile isBlank = [] := by
    rw [← List.append_nil trailing, List.dropWhile_append_of_pos trailBlank]
    rfl
  rw [trim, trim, String.toList_ofList, List.append_assoc,
    List.dropWhile_append_of_pos leadBlank, List.dropWhile_append, onlyTrailing]
  split
  · rename_i onlyBlank
    rw [List.isEmpty_iff.mp onlyBlank]
  · rw [dropEnd]

end SelectCypher.Text
