import SelectCypher.Proofs.Token.Lexeme

namespace SelectCypher.Text

/-!
# Rows put together

Where an element of two joined rows stands, and when two texts that begin with a
run of characters begin with the same run.
-/

/-- An element of two joined rows stands in the first or in the second. -/
theorem append_eq_append_cons
    {α : Type}
    {first second front rest : List α}
    {element : α}
    (shape : first ++ second = front ++ element :: rest) :
    (∃ more, first = front ++ element :: more ∧ rest = more ++ second) ∨
      ∃ more, front = first ++ more ∧ second = more ++ element :: rest := by
  rcases List.append_eq_append_iff.mp shape with
    ⟨more, frontShape, secondShape⟩ | ⟨more, firstShape, restShape⟩
  · exact .inr ⟨more, frontShape, secondShape⟩
  · cases more with
    | nil =>
        refine .inr ⟨[], ?_, ?_⟩
        · simpa using firstShape.symm
        · simpa using restShape.symm
    | cons head later =>
        simp only [List.cons_append, List.cons.injEq] at restShape
        rw [← restShape.1] at firstShape
        exact .inl ⟨later, firstShape, restShape.2⟩

/-- A run stops before a character that is not kept. -/
theorem stops_cons
    {keeps : Char → Bool}
    {next : Char}
    {rest : List Char}
    (notKept : keeps next = false) :
    ∀ first ∈ (next :: rest).head?, keeps first = false := by
  intro first isFirst
  cases isFirst
  exact notKept

/-- A text begins with one run of the characters that are kept. -/
theorem run_unique
    {keeps : Char → Bool}
    {run other rest tail : List Char}
    (kept : ∀ character ∈ run, keeps character = true)
    (otherKept : ∀ character ∈ other, keeps character = true)
    (stops : ∀ next ∈ rest.head?, keeps next = false)
    (otherStops : ∀ next ∈ tail.head?, keeps next = false)
    (same : run ++ rest = other ++ tail) :
    run = other ∧ rest = tail := by
  have sameRun : run = other := by
    rw [← Lexeme.takeWhile_append_of_head? kept stops, same,
      Lexeme.takeWhile_append_of_head? otherKept otherStops]
  rw [sameRun] at same
  exact ⟨sameRun, List.append_cancel_left same⟩

/-- A text begins with one row of other characters before a mark. -/
theorem append_mark_inj
    {mark : Char}
    {row other rest tail : List Char}
    (noMark : mark ∉ row)
    (otherNoMark : mark ∉ other)
    (same : row ++ mark :: rest = other ++ mark :: tail) :
    row = other ∧ rest = tail := by
  have kept :
      ∀ {text : List Char},
        mark ∉ text → ∀ character ∈ text, (character != mark) = true := by
    intro text without character member
    exact bne_iff_ne.mpr (ne_of_mem_of_not_mem member without)
  have stops : (mark != mark) = false := bne_self_eq_false mark
  obtain ⟨sameRow, sameRest⟩ :=
    run_unique (kept noMark) (kept otherNoMark) (stops_cons stops) (stops_cons stops) same
  exact ⟨sameRow, (List.cons.inj sameRest).2⟩

end SelectCypher.Text
