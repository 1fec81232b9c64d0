import SelectCypher.Proofs.Token.Lexeme
import SelectCypher.Token.Layout

namespace SelectCypher.Layout

/-!
# Layout at the front of a text

Measuring layout goes on across a space and stops where a token begins.  White
space at the end of a text changes the measure only if nothing but layout stands
before it, as a line comment may swallow it.
-/

/-- A measure with more characters passed before it. -/
def Lead.behind (passed : Nat) : Lead → Lead
  | .clear length =>
      .clear (passed + length)
  | .openComment length =>
      .openComment (passed + length)

theorem Lead.behind_behind
    (passed more : Nat)
    (measured : Lead) :
    (measured.behind more).behind passed = measured.behind (passed + more) := by
  cases measured <;> simp [behind, Nat.add_assoc]

/-- Characters passed before are only counted. -/
theorem leadFrom_add
    (passed more : Nat)
    (text : List Char) :
    leadFrom (passed + more) text = (leadFrom more text).behind passed := by
  fun_induction leadFrom more text with
  | case1 more rest inductionHypothesis =>
      rw [leadFrom, ← inductionHypothesis, Nat.add_assoc, Nat.add_assoc,
        Nat.add_assoc]
  | case2 more rest inductionHypothesis =>
      rw [leadFrom, ← inductionHypothesis, Nat.add_assoc, Nat.add_assoc,
        Nat.add_assoc]
  | case3 more rest length closes inductionHypothesis =>
      rw [leadFrom, closes, ← inductionHypothesis]
      simp only [Nat.add_assoc]
  | case4 more rest noCloser =>
      rw [leadFrom, noCloser]
      rfl
  | case5 more character rest notDash notSlash notStar isSpace inductionHypothesis =>
      rw [leadFrom.eq_4 _ _ _ notDash notSlash notStar, if_pos isSpace,
        ← inductionHypothesis, Nat.add_assoc]
  | case6 more character rest notDash notSlash notStar notSpace =>
      rw [leadFrom.eq_4 _ _ _ notDash notSlash notStar, if_neg notSpace]
      rfl
  | case7 more =>
      rw [leadFrom]
      rfl

/-- Only a dash and a slash can open a comment. -/
theorem leadFrom_cons
    {passed : Nat}
    {character : Char}
    {rest : List Char}
    (notDash : character ≠ '-')
    (notSlash : character ≠ '/') :
    leadFrom passed (character :: rest) =
      if isSpace character then leadFrom (passed + 1) rest else .clear passed :=
  leadFrom.eq_4 _ _ _ (by simp [notDash]) (by simp [notSlash]) (by simp [notSlash])

theorem isBlank_of_isSpace
    {character : Char}
    (space : isSpace character = true) :
    Text.isBlank character = true := by
  simp only [isSpace, Bool.or_eq_true, decide_eq_true_eq] at space
  rcases space with ((rfl | rfl) | rfl) | rfl <;> rfl

theorem notOpener_of_isBlank
    {character : Char}
    (blank : Text.isBlank character = true) :
    character ≠ '-' ∧ character ≠ '/' := by
  constructor
  all_goals
    rintro rfl
    exact absurd blank (by decide)

@[simp] theorem lead_nil : lead [] = .clear 0 := by
  rw [lead, leadFrom]

/-- The layout behind a space goes on before it. -/
theorem lead_space
    {space : Char}
    (rest : List Char)
    (separates : isSpace space = true) :
    lead (space :: rest) = (lead rest).behind 1 := by
  obtain ⟨notDash, notSlash⟩ :=
    notOpener_of_isBlank (isBlank_of_isSpace separates)
  rw [lead, leadFrom_cons notDash notSlash, if_pos separates]
  exact leadFrom_add 1 0 rest

/-- White space that layout goes on behind is a separating space. -/
theorem lead_of_blank
    {blank : Char}
    {rest : List Char}
    {length : Nat}
    (isBlank : Text.isBlank blank = true)
    (measured : lead (blank :: rest) = .clear (length + 1)) :
    lead rest = .clear length := by
  by_cases separates : isSpace blank = true
  · rw [lead_space rest separates] at measured
    cases behind : lead rest with
    | clear counted =>
        simp only [behind, Lead.behind, Lead.clear.injEq] at measured
        congr 1
        omega
    | openComment counted =>
        simp [behind, Lead.behind] at measured
  · rcases notOpener_of_isBlank isBlank with ⟨notDash, notSlash⟩
    rw [lead, leadFrom_cons notDash notSlash, if_neg separates] at measured
    simp at measured

/-- No layout stands before the first character of a token. -/
theorem lead_of_opensLexeme
    {first : Char}
    (rest : List Char)
    (opens : Lexeme.opensLexeme first = true) :
    lead (first :: rest) = .clear 0 := by
  simp only [Lexeme.opensLexeme, Bool.and_eq_true, Bool.not_eq_eq_eq_not,
    Bool.not_true, bne_iff_ne, ne_eq] at opens
  obtain ⟨⟨notBlank, notDash⟩, notSlash⟩ := opens
  rw [lead, leadFrom_cons notDash notSlash, if_neg]
  intro space
  simp [isBlank_of_isSpace space] at notBlank

/-! ## White space at the end of a text -/

/-- A text begins as before if what is put behind it begins otherwise. -/
theorem append_ne_cons
    {opener : Char}
    {text tail : List Char}
    (fresh : opener ∉ tail)
    (differs : ∀ later, text ≠ opener :: later)
    (later : List Char) :
    text ++ tail ≠ opener :: later := by
  intro shape
  cases text with
  | nil =>
      rw [List.nil_append] at shape
      simp [shape] at fresh
  | cons first more =>
      simp only [List.cons_append, List.cons.injEq] at shape
      exact differs more (by rw [shape.1])

theorem closerEnd?_eq_none
    {passed : Nat}
    {text : List Char}
    (noSlash : '/' ∉ text) :
    closerEnd? passed text = none := by
  fun_induction closerEnd? passed text with
  | case1 passed rest =>
      simp at noSlash
  | case2 passed character rest notCloser inductionHypothesis =>
      exact inductionHypothesis (List.not_mem_of_not_mem_cons noSlash)
  | case3 passed =>
      rfl

/-- A text without slashes behind another ends no block comment of it. -/
theorem closerEnd?_append
    {passed : Nat}
    {text tail : List Char}
    (noSlash : '/' ∉ tail) :
    closerEnd? passed (text ++ tail) = closerEnd? passed text := by
  fun_induction closerEnd? passed text with
  | case1 passed rest =>
      rfl
  | case2 passed character rest notCloser inductionHypothesis =>
      rw [List.cons_append, closerEnd?.eq_2, inductionHypothesis]
      intro later isStar
      exact append_ne_cons noSlash (fun more => notCloser more isStar) later
  | case3 passed =>
      exact closerEnd?_eq_none noSlash

theorem closerEnd?_le
    {passed length : Nat}
    {text : List Char}
    (closes : closerEnd? passed text = some length) :
    length ≤ passed + text.length := by
  fun_induction closerEnd? passed text with
  | case1 passed rest =>
      simp only [Option.some.injEq] at closes
      simp only [List.length_cons]
      omega
  | case2 passed character rest notCloser inductionHypothesis =>
      have bound := inductionHypothesis closes
      simp only [List.length_cons]
      omega
  | case3 passed =>
      simp at closes

/-- A measure is at least what was passed before it. -/
theorem le_of_leadFrom
    {passed length : Nat}
    {text : List Char}
    (measured : leadFrom passed text = .clear length) :
    passed ≤ length := by
  rw [← Nat.add_zero passed, leadFrom_add] at measured
  cases whole : leadFrom 0 text with
  | clear counted =>
      simp only [whole, Lead.behind, Lead.clear.injEq] at measured
      omega
  | openComment counted =>
      simp [whole, Lead.behind] at measured

/-- A line ends inside a text, or it goes on behind the text. -/
theorem lineLength_append
    (text tail : List Char) :
    lineLength (text ++ tail) = lineLength text ∧ lineLength text ≤ text.length ∨
      lineLength text = text.length ∧ text.length ≤ lineLength (text ++ tail) := by
  unfold lineLength
  rw [List.takeWhile_append]
  by_cases whole : (text.takeWhile (· ≠ '\n')).length = text.length
  · rw [if_pos whole]
    exact .inr ⟨whole, by simp⟩
  · rw [if_neg whole]
    exact .inl ⟨rfl, (List.takeWhile_sublist _).length_le⟩

/-- A line comment at the end of a text takes the white space behind it along. -/
theorem leadFrom_cut_line
    {passed length : Nat}
    {rest tail : List Char}
    (inductionHypothesis :
      leadFrom (passed + lineLength rest) (rest.drop (lineLength rest) ++ tail) =
          .clear length →
        leadFrom (passed + lineLength rest) (rest.drop (lineLength rest)) =
          .clear
            (min length
              (passed + lineLength rest +
                (rest.drop (lineLength rest)).length)))
    (measured :
      leadFrom (passed + lineLength (rest ++ tail))
        ((rest ++ tail).drop (lineLength (rest ++ tail))) = .clear length) :
    leadFrom (passed + lineLength rest) (rest.drop (lineLength rest)) =
      .clear (min length (passed + rest.length)) := by
  rcases lineLength_append rest tail with ⟨same, inside⟩ | ⟨whole, longer⟩
  · rw [same, List.drop_append_of_le_length inside] at measured
    rw [inductionHypothesis measured, List.length_drop]
    congr 1
    omega
  · have bound := le_of_leadFrom measured
    rw [whole, List.drop_length, leadFrom]
    congr 1
    omega

/-- White space at the end of a text leaves the measure of the layout before it. -/
theorem leadFrom_cut
    {passed length : Nat}
    {text tail : List Char}
    (blank : ∀ character ∈ tail, Text.isBlank character = true)
    (measured : leadFrom passed (text ++ tail) = .clear length) :
    leadFrom passed text = .clear (min length (passed + text.length)) := by
  have noDash : '-' ∉ tail := by
    intro member
    exact absurd (blank '-' member) (by decide)
  have noStar : '*' ∉ tail := by
    intro member
    exact absurd (blank '*' member) (by decide)
  -- Each comment and space measured in the whole text is measured in the shorter
  -- one too, up to a line comment that the shorter text ends in.
  have noSlash : '/' ∉ tail := by
    intro member
    exact absurd (blank '/' member) (by decide)
  fun_induction leadFrom passed text with
  | case1 passed rest inductionHypothesis =>
      rw [List.cons_append, List.cons_append, leadFrom] at measured
      rw [leadFrom_cut_line inductionHypothesis measured]
      simp only [List.length_cons]
      congr 1
      omega
  | case2 passed rest inductionHypothesis =>
      rw [List.cons_append, List.cons_append, leadFrom] at measured
      rw [leadFrom_cut_line inductionHypothesis measured]
      simp only [List.length_cons]
      congr 1
      omega
  | case3 passed rest closed closes inductionHypothesis =>
      have inside := closerEnd?_le closes
      rw [List.cons_append, List.cons_append, leadFrom,
        closerEnd?_append noSlash, closes] at measured
      simp only at measured
      rw [List.drop_append_of_le_length (by omega)] at measured
      rw [inductionHypothesis measured]
      simp only [List.length_cons, List.length_drop]
      congr 1
      omega
  | case4 passed rest noCloser =>
      rw [List.cons_append, List.cons_append, leadFrom,
        closerEnd?_append noSlash, noCloser] at measured
      cases measured
  | case5 passed character rest notDash notSlash notStar space inductionHypothesis =>
      obtain ⟨isNotDash, isNotSlash⟩ :=
        notOpener_of_isBlank (isBlank_of_isSpace space)
      rw [List.cons_append, leadFrom_cons isNotDash isNotSlash, if_pos space]
        at measured
      rw [inductionHypothesis measured]
      simp only [List.length_cons]
      congr 1
      omega
  | case6 passed character rest notDash notSlash notStar notSpace =>
      rw [List.cons_append, leadFrom.eq_4, if_neg notSpace] at measured
      · cases measured
        simp
      · intro later first
        exact append_ne_cons noDash (fun more => notDash more first) later
      · intro later first
        exact append_ne_cons noSlash (fun more => notSlash more first) later
      · intro later first
        exact append_ne_cons noStar (fun more => notStar more first) later
  | case7 passed =>
      have bound := le_of_leadFrom measured
      simp only [List.length_nil, Nat.add_zero]
      congr 1
      omega

/-- White space at the end of a text cuts the layout in front of it at most. -/
theorem lead_cut
    {length : Nat}
    {text tail : List Char}
    (blank : ∀ character ∈ tail, Text.isBlank character = true)
    (measured : lead (text ++ tail) = .clear length) :
    lead text = .clear (min length text.length) := by
  have cut := leadFrom_cut blank measured
  rwa [Nat.zero_add] at cut

end SelectCypher.Layout
