import SelectCypher.Proofs.Source.Position
import SelectCypher.Proofs.Token.Munch

namespace SelectCypher

/-!
# One step of a scanner

Whatever a scanner answers with, it passes a gap of layout and then the characters
that the answer is about.  The answer is placed behind the gap, and every answer
but the end of input is about at least one character.
-/

namespace Scanner

/-- Where an answer of a scanner is placed. -/
def place : Except LexicalError Token → Position
  | .ok token => token.position
  | .error failure => failure.position

/-- Whether an answer of a scanner is the end of input. -/
def isEndOfInput : Except LexicalError Token → Bool
  | .ok token => token.isEnd
  | .error _ => false

/-- One scanner stands behind some characters of another. -/
structure Passes
    (before : Scanner)
    (passed : List Char)
    (after : Scanner) :
    Prop where
  remaining : before.remaining = passed ++ after.remaining
  position : after.position = before.position.after passed

theorem Passes.offset
    {scanner behind : Scanner}
    {passed : List Char}
    (passes : Passes scanner passed behind) :
    behind.position.offset = scanner.position.offset + byteLength passed := by
  rw [passes.position, Position.after_offset]

/-- What a scanner passes to answer: a gap, and the characters of the answer. -/
structure Scans
    (scanner : Scanner)
    (gap passed : List Char)
    (answer : Except LexicalError Token)
    (behind : Scanner) :
    Prop where
  passes : Passes scanner (gap ++ passed) behind
  exhausted : behind.exhausted = scanner.exhausted
  place : place answer = scanner.position.after gap
  token : ∀ token, answer = .ok token → token.text.toList = passed
  error : ∀ failure, answer = .error failure → failure.character ∈ passed.head?
  progress : isEndOfInput answer = false → passed ≠ []
  finished : isEndOfInput answer = true → behind.remaining = []

/-- What is found in a text is what the scanner passes and answers with. -/
theorem scans_of_munches
    {scanner : Scanner}
    {gap passed rest : List Char}
    {finding : Finding}
    (munches : Munches gap passed rest finding)
    (shape : scanner.remaining = gap ++ (passed ++ rest)) :
    Scans scanner gap passed (finding.answer passed (scanner.position.after gap))
      (scanner.past (gap ++ passed) rest) where
  passes := ⟨by rw [shape, List.append_assoc]; rfl, rfl⟩
  exhausted := rfl
  place := by
    cases finding <;> rfl
  token := by
    intro token same
    cases finding with
    | finished =>
        cases munches
        cases same
        rfl
    | token kind =>
        cases same
        exact String.toList_ofList
    | fault cause character =>
        cases same
  error := by
    intro failure same
    cases munches with
    | openComment longest unclosed =>
        cases same
        exact unclosed.head?
    | openString longest unclosed =>
        obtain ⟨later, rfl, -⟩ := unclosed
        cases same
        rfl
    | stray =>
        cases same
        rfl
    | _ =>
        cases same
  progress := by
    intro notEnd
    apply munches.passed_ne_nil
    rintro rfl
    cases notEnd
  finished := by
    intro isEnd
    cases munches with
    | finished =>
        rfl
    | token longest closedString longestToken =>
        simp only [Finding.answer, isEndOfInput, Token.isEnd, beq_iff_eq] at isEnd
        exact absurd isEnd longestToken.spells.ne_endOfInput
    | _ =>
        cases isEnd

/-- Whatever a scanner answers with, it passes a gap and what the answer is about. -/
theorem exists_scans
    {scanner behind : Scanner}
    {answer : Except LexicalError Token}
    (scanned : scanner.nextToken = (answer, behind)) :
    ∃ gap passed, Scans scanner gap passed answer behind := by
  obtain ⟨gap, passed, rest, finding, shape, munches⟩ :=
    exists_munches scanner.remaining
  rw [munches.nextToken_eq shape] at scanned
  cases scanned
  exact ⟨gap, passed, scans_of_munches munches shape⟩

end Scanner

end SelectCypher
