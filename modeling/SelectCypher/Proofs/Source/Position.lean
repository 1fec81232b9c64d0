import Mathlib.Data.List.DropRight
import SelectCypher.Source.Position

namespace SelectCypher

/-!
# What positions count

A position that has been taken over a text counts the bytes of the text, its line
feeds and the characters behind the last one.  So none of its numbers outgrows the
text, and two positions in one text are in the same order by their offsets and by
their lines and columns.
-/

/-- The characters behind the last line feed of a text. -/
def lastLine (text : List Char) : List Char :=
  text.rtakeWhile (· ≠ '\n')

theorem lastLine_concat
    (text : List Char)
    (character : Char) :
    lastLine (text ++ [character]) =
      if character = '\n' then [] else lastLine text ++ [character] := by
  by_cases feeds : character = '\n'
  · simp [lastLine, feeds]
  · simp [lastLine, feeds]

theorem lastLine_length_le (text : List Char) :
    (lastLine text).length ≤ text.length :=
  (List.rtakeWhile_suffix _ text).length_le

/-- A text without a line feed lengthens the line in front of it. -/
theorem lastLine_append
    {text more : List Char}
    (oneLine : '\n' ∉ more) :
    lastLine (text ++ more) = lastLine text ++ more := by
  induction more using List.reverseRecOn with
  | nil =>
      simp
  | append_singleton before last inductionHypothesis =>
      have notLast : last ≠ '\n' := by
        rintro rfl
        simp at oneLine
      have notBefore : '\n' ∉ before := by
        intro member
        simp [member] at oneLine
      rw [← List.append_assoc, lastLine_concat, if_neg notLast,
        inductionHypothesis notBefore, List.append_assoc]

namespace Position

theorem after_offset
    (position : Position)
    (text : List Char) :
    (position.after text).offset = position.offset + byteLength text := by
  induction text generalizing position with
  | nil =>
      rfl
  | cons character rest inductionHypothesis =>
      have oneFurther :
          (position.advance character).offset =
            position.offset + character.utf8Size := by
        unfold Position.advance
        split <;> rfl
      rw [Position.after_cons, inductionHypothesis, oneFurther, byteLength_cons,
        Nat.add_assoc]

/-- A position is that of the end of a text: it counts everything in the text. -/
structure Counts
    (position : Position)
    (text : List Char) :
    Prop where
  offset : position.offset = byteLength text
  line : position.line = 1 + text.count '\n'
  column : position.column = 1 + (lastLine text).length

/-- The position behind a text counts it. -/
theorem counts_after (text : List Char) : (start.after text).Counts text := by
  induction text using List.reverseRecOn with
  | nil =>
      exact ⟨rfl, rfl, rfl⟩
  | append_singleton before last inductionHypothesis =>
      obtain ⟨-, line, column⟩ := inductionHypothesis
      have offset :
          (start.after (before ++ [last])).offset = byteLength (before ++ [last]) := by
        rw [after_offset]
        exact Nat.zero_add _
      refine ⟨offset, ?_, ?_⟩
      · rw [after_append, after_cons, after_nil, advance]
        by_cases feeds : last = '\n' <;> simp [feeds, line, Nat.add_assoc]
      · rw [after_append, after_cons, after_nil, advance, lastLine_concat]
        by_cases feeds : last = '\n' <;> simp [feeds, column, Nat.add_assoc]

/-- What a position counts is counted by no other one. -/
theorem Counts.unique
    {position other : Position}
    {text : List Char}
    (counts : position.Counts text)
    (otherCounts : other.Counts text) :
    position = other := by
  rcases position with ⟨offset, line, column⟩
  rcases other with ⟨otherOffset, otherLine, otherColumn⟩
  simp only [mk.injEq]
  exact ⟨counts.offset.trans otherCounts.offset.symm,
    counts.line.trans otherCounts.line.symm,
    counts.column.trans otherCounts.column.symm⟩

theorem Counts.line_le
    {position : Position}
    {text : List Char}
    (counts : position.Counts text) :
    position.line ≤ text.length + 1 := by
  have bound := List.count_le_length (a := '\n') (l := text)
  rw [counts.line]
  omega

theorem Counts.column_le
    {position : Position}
    {text : List Char}
    (counts : position.Counts text) :
    position.column ≤ text.length + 1 := by
  have bound := lastLine_length_le text
  rw [counts.column]
  omega

/-! ## The order of positions -/

/-- The order of two positions by line, and inside one line by column. -/
def lineOrder (first second : Position) : Ordering :=
  (compare first.line second.line).then (compare first.column second.column)

/-- Behind at least one more character a position is later by both orders. -/
theorem Counts.later
    {first second : Position}
    {text more : List Char}
    (someMore : more ≠ [])
    (firstCounts : first.Counts text)
    (secondCounts : second.Counts (text ++ more)) :
    first.offset < second.offset ∧
      (first.line < second.line ∨
        first.line = second.line ∧ first.column < second.column) := by
  constructor
  · obtain ⟨character, rest, rfl⟩ := List.exists_cons_of_ne_nil someMore
    have positive := character.utf8Size_pos
    rw [firstCounts.offset, secondCounts.offset, byteLength_append, byteLength_cons]
    omega
  · rw [firstCounts.line, secondCounts.line, firstCounts.column,
      secondCounts.column, List.count_append]
    by_cases oneLine : '\n' ∈ more
    · have feeds := List.count_pos_iff.mpr oneLine
      exact .inl (by omega)
    · have positive := List.length_pos_iff.mpr someMore
      rw [lastLine_append oneLine, List.count_eq_zero.mpr oneLine, List.length_append]
      exact .inr ⟨rfl, by omega⟩

/-- Positions at the ends of a text and of a longer one agree in both orders. -/
theorem Counts.compare_offset
    {first second : Position}
    {text more : List Char}
    (firstCounts : first.Counts text)
    (secondCounts : second.Counts (text ++ more)) :
    compare first.offset second.offset = lineOrder first second ∧
      compare second.offset first.offset = lineOrder second first := by
  unfold lineOrder
  by_cases nothing : more = []
  · rw [nothing, List.append_nil] at secondCounts
    rw [firstCounts.unique secondCounts]
    simp
  · obtain ⟨offset, line⟩ := firstCounts.later nothing secondCounts
    rw [Nat.compare_eq_lt.mpr offset, Nat.compare_eq_gt.mpr offset]
    rcases line with lower | ⟨sameLine, shorter⟩
    · rw [Nat.compare_eq_lt.mpr lower, Nat.compare_eq_gt.mpr lower]
      exact ⟨rfl, rfl⟩
    · rw [sameLine, Nat.compare_eq_lt.mpr shorter, Nat.compare_eq_gt.mpr shorter,
        Nat.compare_eq_eq.mpr rfl]
      exact ⟨rfl, rfl⟩

/-- A position in a text, between characters, that counts what stands before it. -/
def Marks
    (position : Position)
    (text : List Char) :
    Prop :=
  ∃ front behind, text = front ++ behind ∧ position.Counts front

/-- Two positions in one text are in the same order by offset and by line. -/
theorem Marks.compare_offset
    {first second : Position}
    {text : List Char}
    (firstMarks : first.Marks text)
    (secondMarks : second.Marks text) :
    compare first.offset second.offset = lineOrder first second := by
  obtain ⟨front, behind, rfl, firstCounts⟩ := firstMarks
  obtain ⟨other, otherBehind, shape, secondCounts⟩ := secondMarks
  rcases List.append_eq_append_iff.mp shape with
    ⟨more, rfl, -⟩ | ⟨more, rfl, -⟩
  · exact (firstCounts.compare_offset secondCounts).1
  · exact (secondCounts.compare_offset firstCounts).2

/-- No number of a position in a text exceeds the length of the text by more than one. -/
theorem Marks.bounds
    {position : Position}
    {text : List Char}
    (marks : position.Marks text) :
    position.offset ≤ byteLength text ∧ position.line ≤ text.length + 1 ∧
      position.column ≤ text.length + 1 := by
  obtain ⟨front, behind, rfl, counts⟩ := marks
  have line := counts.line_le
  have column := counts.column_le
  rw [counts.offset, byteLength_append, List.length_append]
  omega

/-- In a text short enough no line and no column outgrows 32 bits. -/
theorem Marks.lt_size
    {position : Position}
    {text : List Char}
    (marks : position.Marks text)
    (short : text.length < UInt32.size - 1) :
    position.line < UInt32.size ∧ position.column < UInt32.size := by
  obtain ⟨-, line, column⟩ := marks.bounds
  omega

end Position

end SelectCypher
