import SelectCypher.Proofs.Token.Layout

namespace SelectCypher.Layout

open Lexeme

/-!
# What layout consists of

`Fills` says what may stand between two tokens, without the way it is measured:
separating characters, line comments up to a line feed or the end of the text, and
block comments up to the first `*/`.  What is measured as layout at the front of a
text fills the gap there.
-/

/-- A gap of nothing but layout, in front of what follows it in the text. -/
inductive Fills : List Char → List Char → Prop
  | nothing {rest : List Char} :
      Fills [] rest
  | space
      {character : Char}
      {gap rest : List Char} :
      isSpace character = true →
      Fills gap rest →
      Fills (character :: gap) rest
  | lineComment
      {opener line gap rest : List Char} :
      opener = ['-', '-'] ∨ opener = ['/', '/'] →
      '\n' ∉ line →
      (∀ next ∈ (gap ++ rest).head?, next = '\n') →
      Fills gap rest →
      Fills (opener ++ line ++ gap) rest
  | blockComment
      {content gap rest : List Char} :
      ¬ ['*', '/'] <:+: content →
      Fills gap rest →
      Fills ('/' :: '*' :: content ++ '*' :: '/' :: gap) rest

/-- A line and what stands behind it. -/
theorem exists_line (text : List Char) :
    ∃ line rest,
      text = line ++ rest ∧ lineLength text = line.length ∧ '\n' ∉ line ∧
        ∀ next ∈ rest.head?, next = '\n' := by
  obtain ⟨line, rest, rfl, kept, stops⟩ := exists_run (fun c => c ≠ '\n') text
  refine ⟨line, rest, rfl, ?_, ?_, ?_⟩
  · rw [lineLength, takeWhile_append_of_head? kept stops]
  · intro member
    simpa using kept '\n' member
  · intro next isFirst
    simpa using stops next isFirst

/-- The first end of a block comment has no other one before it. -/
theorem exists_content
    {passed length : Nat}
    {text : List Char}
    (closes : closerEnd? passed text = some length) :
    ∃ content rest,
      text = content ++ '*' :: '/' :: rest ∧ length = passed + content.length + 2 ∧
        ¬ ['*', '/'] <:+: content := by
  fun_induction closerEnd? passed text with
  | case1 passed rest =>
      cases closes
      exact ⟨[], rest, rfl, rfl, by simp⟩
  | case2 passed character rest notCloser inductionHypothesis =>
      obtain ⟨content, behind, rfl, rfl, noCloser⟩ := inductionHypothesis closes
      refine ⟨character :: content, behind, rfl, ?_, ?_⟩
      · simp only [List.length_cons]
        omega
      · intro closer
        rcases List.infix_cons_iff.mp closer with opens | inside
        · obtain ⟨later, shape⟩ := opens
          simp only [List.cons_append, List.nil_append, List.cons.injEq] at shape
          apply notCloser (later ++ '*' :: '/' :: behind) shape.1.symm
          rw [← shape.2, List.cons_append]
        · exact noCloser inside
  | case3 passed =>
      cases closes

/-- A block comment is unclosed if its closing characters stand nowhere behind it. -/
theorem closerEnd?_eq_none_iff
    {passed : Nat}
    {text : List Char} :
    closerEnd? passed text = none ↔ ¬ ['*', '/'] <:+: text := by
  constructor
  · intro unclosed closer
    fun_induction closerEnd? passed text with
    | case1 passed rest =>
        cases unclosed
    | case2 passed character rest notCloser inductionHypothesis =>
        rcases List.infix_cons_iff.mp closer with ⟨later, shape⟩ | inside
        · simp only [List.cons_append, List.nil_append, List.cons.injEq] at shape
          exact notCloser later shape.1.symm shape.2.symm
        · exact inductionHypothesis unclosed inside
    | case3 passed =>
        simp at closer
  · intro noCloser
    cases closes : closerEnd? passed text with
    | none =>
        rfl
    | some length =>
        obtain ⟨content, rest, rfl, -, -⟩ := exists_content closes
        exact absurd ⟨content, rest, by simp⟩ noCloser

/-- A block comment of which no end follows. -/
def UnclosedComment (text : List Char) : Prop :=
  ∃ content, text = '/' :: '*' :: content ∧ ¬ ['*', '/'] <:+: content

/-- A line comment and the layout behind its line. -/
theorem Fills.behindLine
    {opener rest gap behind : List Char}
    (opens : opener = ['-', '-'] ∨ opener = ['/', '/'])
    (shape : rest.drop (lineLength rest) = gap ++ behind)
    (fills : Fills gap behind) :
    ∃ whole,
      opener ++ rest = whole ++ behind ∧
        whole.length = 2 + lineLength rest + gap.length ∧ Fills whole behind := by
  obtain ⟨line, later, restShape, lineCounted, inLine, stops⟩ := exists_line rest
  have laterShape : later = gap ++ behind := by
    rw [← shape, lineCounted, restShape, List.drop_left]
  have openerLength : opener.length = 2 := by
    rcases opens with isDash | isSlash
    · rw [isDash]
      rfl
    · rw [isSlash]
      rfl
  refine ⟨opener ++ line ++ gap, ?_, ?_, ?_⟩
  · rw [restShape, laterShape]
    simp only [List.append_assoc]
  · simp only [List.length_append, openerLength]
    omega
  · apply Fills.lineComment opens inLine
    · rw [← laterShape]
      exact stops
    · exact fills

/--
What is measured at the front of a text is a gap of layout, behind which there may be
a comment without an end.
-/
theorem exists_fills
    (passed : Nat)
    (text : List Char) :
    ∃ gap rest,
      text = gap ++ rest ∧ Fills gap rest ∧
        (leadFrom passed text = .clear (passed + gap.length) ∨
          leadFrom passed text = .openComment (passed + gap.length) ∧
            UnclosedComment rest) := by
  fun_induction leadFrom passed text with
  | case1 passed rest inductionHypothesis =>
      obtain ⟨gap, behind, shape, fills, measured⟩ := inductionHypothesis
      obtain ⟨whole, wholeShape, counted, wholeFills⟩ :=
        Fills.behindLine (.inl rfl) shape fills
      refine ⟨whole, behind, wholeShape, wholeFills, ?_⟩
      rwa [counted, ← Nat.add_assoc, ← Nat.add_assoc]
  | case2 passed rest inductionHypothesis =>
      obtain ⟨gap, behind, shape, fills, measured⟩ := inductionHypothesis
      obtain ⟨whole, wholeShape, counted, wholeFills⟩ :=
        Fills.behindLine (.inr rfl) shape fills
      refine ⟨whole, behind, wholeShape, wholeFills, ?_⟩
      rwa [counted, ← Nat.add_assoc, ← Nat.add_assoc]
  | case3 passed rest closed closes inductionHypothesis =>
      obtain ⟨content, later, restShape, rfl, noCloser⟩ := exists_content closes
      obtain ⟨gap, behind, shape, fills, measured⟩ := inductionHypothesis
      have laterShape : later = gap ++ behind := by
        rw [← shape, restShape]
        simp
      have counted :
          passed + ('/' :: '*' :: content ++ '*' :: '/' :: gap).length =
            passed + 2 + (0 + content.length + 2) + gap.length := by
        simp only [List.length_cons, List.length_append]
        omega
      refine
        ⟨'/' :: '*' :: content ++ '*' :: '/' :: gap, behind, ?_,
          .blockComment noCloser fills, ?_⟩
      · rw [restShape, laterShape]
        simp
      · rwa [counted]
  | case4 passed rest noCloser =>
      have unclosed : UnclosedComment ('/' :: '*' :: rest) :=
        ⟨rest, rfl, closerEnd?_eq_none_iff.mp noCloser⟩
      exact ⟨[], _, rfl, .nothing, .inr ⟨rfl, unclosed⟩⟩
  | case5 passed character rest notDash notSlash notStar isSpace inductionHypothesis =>
      obtain ⟨gap, behind, rfl, fills, measured⟩ := inductionHypothesis
      refine ⟨character :: gap, behind, rfl, .space isSpace fills, ?_⟩
      rwa [List.length_cons, Nat.add_comm gap.length, ← Nat.add_assoc]
  | case6 passed character rest notDash notSlash notStar notSpace =>
      exact ⟨[], character :: rest, rfl, .nothing, .inl rfl⟩
  | case7 passed =>
      exact ⟨[], [], rfl, .nothing, .inl rfl⟩

/-- A gap that is measured as layout consists of layout. -/
theorem fills_of_lead
    {gap rest : List Char}
    (measured : lead (gap ++ rest) = .clear gap.length) :
    Fills gap rest := by
  obtain ⟨found, behind, shape, fills, counted⟩ := exists_fills 0 (gap ++ rest)
  rw [show leadFrom 0 (gap ++ rest) = lead (gap ++ rest) from rfl, measured,
    Nat.zero_add] at counted
  have sameLength : gap.length = found.length := by
    simpa using counted
  obtain ⟨rfl, rfl⟩ := List.append_inj shape sameLength
  exact fills

/-! ## Gaps are measured as layout -/

/-- The characters with which layout begins. -/
def opensLayout (character : Char) : Bool :=
  isSpace character || character = '-' || character = '/'

/-- A gap begins as layout does. -/
theorem Fills.opensLayout
    {gap rest : List Char}
    (fills : Fills gap rest) :
    ∀ first ∈ gap.head?, opensLayout first = true := by
  cases fills with
  | nothing =>
      simp
  | space separates fills =>
      simp [Layout.opensLayout, separates]
  | lineComment opens inLine stops fills =>
      rcases opens with rfl | rfl <;> simp [Layout.opensLayout]
  | blockComment noCloser fills =>
      simp [Layout.opensLayout]

/-- A block comment is measured up to its first end. -/
theorem closerEnd?_of_content
    {passed : Nat}
    {content rest : List Char}
    (noCloser : ¬ ['*', '/'] <:+: content) :
    closerEnd? passed (content ++ '*' :: '/' :: rest) =
      some (passed + content.length + 2) := by
  induction content generalizing passed with
  | nil =>
      rfl
  | cons character more inductionHypothesis =>
      have noneInside : ¬ ['*', '/'] <:+: more := by
        intro closer
        exact noCloser (closer.trans (List.suffix_cons character more).isInfix)
      rw [List.cons_append, closerEnd?.eq_2, inductionHypothesis noneInside]
      · simp only [List.length_cons]
        congr 1
        omega
      · intro later isStar shape
        subst isStar
        cases more with
        | nil =>
            simp at shape
        | cons second further =>
            simp only [List.cons_append, List.cons.injEq] at shape
            apply noCloser
            rw [shape.1]
            exact (List.prefix_append ['*', '/'] further).isInfix

/-- A line comment is measured up to the line feed or the end behind it. -/
theorem lead_of_line
    {opener line rest : List Char}
    (opens : opener = ['-', '-'] ∨ opener = ['/', '/'])
    (inLine : '\n' ∉ line)
    (stops : ∀ next ∈ rest.head?, next = '\n') :
    lead (opener ++ line ++ rest) = (lead rest).behind (opener ++ line).length := by
  have measured : lineLength (line ++ rest) = line.length := by
    rw [lineLength, takeWhile_append_of_head?]
    · intro character member
      have differs : character ≠ '\n' := by
        rintro rfl
        exact inLine member
      simpa using differs
    · intro next isFirst
      simpa using stops next isFirst
  have behindLine :
      leadFrom (2 + line.length) rest = (lead rest).behind (2 + line.length) :=
    leadFrom_add (2 + line.length) 0 rest
  rcases opens with rfl | rfl
  all_goals
    rw [lead, List.append_assoc]
    simp only [List.cons_append, List.nil_append]
    rw [leadFrom, measured, List.drop_left, Nat.zero_add, behindLine, Nat.add_comm]
    rfl

/-- A block comment is measured up to its first end, and layout goes on behind it. -/
theorem lead_of_block
    {content : List Char}
    (rest : List Char)
    (noCloser : ¬ ['*', '/'] <:+: content) :
    lead ('/' :: '*' :: content ++ '*' :: '/' :: rest) =
      (lead rest).behind (content.length + 4) := by
  have dropped :
      (content ++ '*' :: '/' :: rest).drop (0 + content.length + 2) = rest := by
    rw [Nat.zero_add, ← List.drop_drop, List.drop_left]
    rfl
  rw [lead, List.cons_append, List.cons_append, leadFrom,
    closerEnd?_of_content noCloser]
  simp only [dropped]
  rw [show 0 + 2 + (0 + content.length + 2) = content.length + 4 + 0 by omega]
  exact leadFrom_add (content.length + 4) 0 rest

/-- Layout is measured across a gap. -/
theorem lead_append
    {gap rest : List Char}
    (fills : Fills gap rest) :
    lead (gap ++ rest) = (lead rest).behind gap.length := by
  induction fills with
  | @nothing rest =>
      cases measured : lead rest <;> simp [measured, Lead.behind]
  | space separates fills inductionHypothesis =>
      rw [List.cons_append, lead_space _ separates, inductionHypothesis,
        Lead.behind_behind, List.length_cons, Nat.add_comm]
  | lineComment isOpener inLine stops fills inductionHypothesis =>
      rw [List.append_assoc, lead_of_line isOpener inLine stops,
        inductionHypothesis, Lead.behind_behind, ← List.length_append]
  | @blockComment content gap rest noCloser fills inductionHypothesis =>
      have shape :
          '/' :: '*' :: content ++ '*' :: '/' :: gap ++ rest =
            '/' :: '*' :: content ++ '*' :: '/' :: (gap ++ rest) := by
        simp
      have counted :
          content.length + 4 + gap.length =
            ('/' :: '*' :: content ++ '*' :: '/' :: gap).length := by
        simp only [List.length_cons, List.length_append]
        omega
      rw [shape, lead_of_block _ noCloser, inductionHypothesis, Lead.behind_behind,
        counted]

/-- A gap in front of a token or of the end is measured as layout. -/
theorem lead_of_fills
    {gap rest : List Char}
    (fills : Fills gap rest)
    (opens : ∀ first ∈ rest.head?, opensLexeme first = true) :
    lead (gap ++ rest) = .clear gap.length := by
  have nothingMore : lead rest = .clear 0 := by
    cases rest with
    | nil =>
        exact lead_nil
    | cons first later =>
        exact lead_of_opensLexeme later (opens first rfl)
  rw [lead_append fills, nothingMore]
  rfl

end SelectCypher.Layout
