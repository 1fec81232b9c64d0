import SelectCypher.Proofs.Token.Gap
import SelectCypher.Token.Scanner

namespace SelectCypher

open Lexeme

/-!
# Maximal munch

`Munches` says what a scanner finds in a text without the way it is measured: the
longest gap of layout, and behind it the longest text that any token may have, or the
reason why there is none.  A scanner finds exactly that, wherever it stands.
-/

/-! ## Strings without an end -/

namespace Lexeme

/-- A quote that no later one closes: whatever quote a content leads up to is doubled. -/
def UnclosedString (text : List Char) : Prop :=
  ∃ later,
    text = '\'' :: later ∧
      ∀ content rest,
        later = Text.doubled content ++ '\'' :: rest → rest.head? = some '\''

/-- A string has no end if every quote in it that a content leads up to is doubled. -/
theorem stringEnd?_eq_none_iff
    {passed : Nat}
    {text : List Char} :
    stringEnd? passed text = none ↔
      ∀ content rest,
        text = Text.doubled content ++ '\'' :: rest → rest.head? = some '\'' := by
  constructor
  · rintro unclosed content rest rfl
    rw [stringEnd?_append] at unclosed
    cases rest with
    | nil =>
        cases unclosed
    | cons next later =>
        by_cases isQuote : next = '\''
        · rw [isQuote]
          rfl
        · rw [stringEnd?.eq_2 _ _ (by simp [isQuote])] at unclosed
          cases unclosed
  · intro doubled
    cases closes : stringEnd? passed text with
    | none =>
        rfl
    | some length =>
        obtain ⟨content, rest, shape, -, stops⟩ := exists_content_of_stringEnd? closes
        exact absurd rfl (stops '\'' (doubled content rest shape))

theorem front_eq_openString_iff
    {text : List Char} :
    front text = .openString ↔ UnclosedString text := by
  constructor
  · intro isOpen
    obtain ⟨later, rfl⟩ : ∃ later, text = '\'' :: later :=
      List.head?_eq_some_iff.mp (head?_of_openString isOpen)
    refine ⟨later, rfl, ?_⟩
    apply (@stringEnd?_eq_none_iff 1 later).mp
    rw [front_of_quote] at isOpen
    split at isOpen
    · cases isOpen
    · assumption
  · rintro ⟨later, rfl, doubled⟩
    rw [front_of_quote, stringEnd?_eq_none_iff.mpr doubled]

/-! ## The longest token -/

/-- A symbol at the front of a text is measured, or a longer one is. -/
theorem exists_symbol?
    {kind : TokenKind}
    {text : List Char}
    (rest : List Char)
    (listed : (text, kind) ∈ symbols) :
    ∃ found length,
      symbol? (text ++ rest) = some (found, length) ∧ text.length ≤ length := by
  by_cases ends : EndsBefore kind text rest
  · exact ⟨kind, text.length, symbol?_eq_of_mem listed ends, Nat.le_refl _⟩
  · simp only [symbols, List.mem_cons, Prod.mk.injEq, List.not_mem_nil,
      or_false] at listed
    rcases listed with ⟨rfl, rfl⟩ | ⟨rfl, rfl⟩ | ⟨rfl, rfl⟩ | ⟨rfl, rfl⟩ |
      ⟨rfl, rfl⟩ | ⟨rfl, rfl⟩ | ⟨rfl, rfl⟩ | ⟨rfl, rfl⟩ | ⟨rfl, rfl⟩ |
      ⟨rfl, rfl⟩ | ⟨rfl, rfl⟩
    case inr.inr.inl =>
      -- What follows the symbol makes it the beginning of a longer one.
      obtain ⟨next, isFirst, rfl | rfl⟩ :
          ∃ next ∈ rest.head?, next = '=' ∨ next = '>' := by
        simpa [EndsBefore, imp_iff_not_or] using ends
      all_goals
        obtain ⟨later, rfl⟩ := List.head?_eq_some_iff.mp isFirst
        exact ⟨_, _, rfl, Nat.le_succ 1⟩
    case inr.inr.inr.inr.inl =>
      obtain ⟨next, isFirst, rfl⟩ : ∃ next ∈ rest.head?, next = '=' := by
        simpa [EndsBefore] using ends
      obtain ⟨later, rfl⟩ := List.head?_eq_some_iff.mp isFirst
      exact ⟨_, _, rfl, Nat.le_succ 1⟩
    all_goals
      exact absurd trivial ends

/-- A run of digits at the front of a text is counted whole, or a longer one is. -/
theorem le_digitsLength
    {digits : List Char}
    (rest : List Char)
    (isDigits : ∀ digit ∈ digits, digit.isDigit = true) :
    digits.length ≤ digitsLength (digits ++ rest) := by
  rw [digitsLength, List.takeWhile_append_of_pos isDigits, List.length_append]
  exact Nat.le_add_right _ _

/--
Where a text begins as some token is spelled, a token at least as long is measured,
or a string without an end.
-/
theorem Spells.exists_front
    {kind : TokenKind}
    {spelled : List Char}
    (spells : Spells kind spelled)
    (rest : List Char) :
    front (spelled ++ rest) = .openString ∨
      ∃ found length,
        front (spelled ++ rest) = .token found length ∧ spelled.length ≤ length := by
  have number :
      ∀ {digits later : List Char},
        digits ≠ [] →
        (∀ digit ∈ digits, digit.isDigit = true) →
        front (digits ++ later) =
          .token .number (numberLength (digits ++ later)) := by
    intro digits later someDigits isDigits
    obtain ⟨first, more, rfl⟩ := List.exists_cons_of_ne_nil someDigits
    exact front_of_digit (isDigits first (by simp))
  cases spells with
  | symbol listed =>
      obtain ⟨found, length, measured, longer⟩ := exists_symbol? rest listed
      exact .inr ⟨found, length, by rw [front, measured], longer⟩
  | string content =>
      have shape :
          '\'' :: Text.doubled content ++ ['\''] ++ rest =
            '\'' :: (Text.doubled content ++ '\'' :: rest) := by
        simp
      rw [shape, front_of_quote]
      cases measured : stringEnd? 1 (Text.doubled content ++ '\'' :: rest) with
      | none =>
          exact .inl rfl
      | some length =>
          rw [stringEnd?_append] at measured
          have bounds := stringEnd?_bounds measured
          refine .inr ⟨_, _, rfl, ?_⟩
          simp only [List.cons_append, List.length_cons, List.length_append,
            List.length_nil]
          omega
  | whole someDigits isDigits =>
      refine .inr ⟨_, _, number someDigits isDigits, ?_⟩
      exact Nat.le_trans (le_digitsLength rest isDigits) (Nat.le_add_right _ _)
  | @decimal digits fraction someDigits isDigits someFraction isFraction =>
      rw [List.append_assoc, List.cons_append]
      refine .inr ⟨_, _, number someDigits isDigits, ?_⟩
      have counted := le_digitsLength rest isFraction
      have positive := List.length_pos_iff.mpr someFraction
      have measured :
          numberLength (digits ++ '.' :: (fraction ++ rest)) =
            digits.length + (digitsLength (fraction ++ rest) + 1) := by
        rw [numberLength, digitsLength_append isDigits (by simp), List.drop_left,
          fractionLength, if_neg (by omega)]
      rw [measured, List.length_append, List.length_cons]
      omega
  | @word first later opens inside =>
      have kept : ∀ c ∈ first :: later, Text.isNamePart c = true := by
        simpa using ⟨isNamePart_of_isNameStart opens, inside⟩
      rw [List.cons_append]
      refine .inr ⟨_, _, front_of_isNameStart opens, ?_⟩
      rw [Lexeme.word, ← List.cons_append, List.takeWhile_append_of_pos kept,
        List.length_append]
      exact Nat.le_add_right _ _

/-- A text spells tokens of one kind at most. -/
theorem Spells.unique
    {kind other : TokenKind}
    {spelled : List Char}
    (spells : Spells kind spelled)
    (otherSpells : Spells other spelled) :
    kind = other := by
  have ends : ∀ kind, EndsBefore kind spelled [] :=
    fun kind => endsBefore_of_head? (by simp)
  have measured := front_of_spells spells (ends kind)
  rw [front_of_spells otherSpells (ends other)] at measured
  cases measured
  rfl

/-- The longest text that any token may have at the front of a text. -/
structure LongestToken
    (kind : TokenKind)
    (spelled rest : List Char) :
    Prop where
  spells : Spells kind spelled
  longest :
    ∀ otherKind other behind,
      spelled ++ rest = other ++ behind →
      Spells otherKind other →
      other.length ≤ spelled.length

/-- A token is measured where no string is left open, and it is the longest there. -/
theorem front_eq_token_iff_longest
    {kind : TokenKind}
    {spelled rest : List Char} :
    front (spelled ++ rest) = .token kind spelled.length ↔
      ¬ UnclosedString (spelled ++ rest) ∧ LongestToken kind spelled rest := by
  constructor
  · intro measured
    refine ⟨?_, ?_, ?_⟩
    · intro unclosed
      rw [front_eq_openString_iff.mpr unclosed] at measured
      cases measured
    · obtain ⟨found, behind, shape, counted, spells, -⟩ := spells_of_front measured
      obtain ⟨rfl, -⟩ := List.append_inj shape counted
      exact spells
    · intro otherKind other behind shape spells
      rw [shape] at measured
      rcases spells.exists_front behind with isOpen | ⟨found, length, longer, bound⟩
      · rw [isOpen] at measured
        cases measured
      · rw [longer] at measured
        cases measured
        exact bound
  · rintro ⟨closed, spells, longest⟩
    rcases spells.exists_front rest with isOpen | ⟨found, length, measured, longer⟩
    · exact absurd (front_eq_openString_iff.mp isOpen) closed
    · obtain ⟨other, behind, shape, rfl, otherSpells, -⟩ := spells_of_front measured
      have shorter := longest found other behind shape otherSpells
      obtain ⟨rfl, -⟩ := List.append_inj shape (Nat.le_antisymm longer shorter)
      rw [measured, spells.unique otherSpells]

/-- The longest token ends where no longer one of its kind could be read. -/
theorem LongestToken.endsBefore
    {kind : TokenKind}
    {spelled rest : List Char}
    (longestToken : LongestToken kind spelled rest)
    (closedString : ¬ UnclosedString (spelled ++ rest)) :
    EndsBefore kind spelled rest := by
  obtain ⟨other, behind, shape, counted, -, ends⟩ :=
    spells_of_front (front_eq_token_iff_longest.mpr ⟨closedString, longestToken⟩)
  obtain ⟨rfl, rfl⟩ := List.append_inj shape counted
  exact ends

/-- A character is stray where no string is left open and no token begins. -/
theorem front_eq_stray_iff
    {text : List Char}
    {character : Char} :
    front text = .stray character ↔
      text.head? = some character ∧ ¬ UnclosedString text ∧
        ∀ kind spelled rest, text = spelled ++ rest → ¬ Spells kind spelled := by
  constructor
  · intro isStray
    refine ⟨head?_of_stray isStray, ?_, ?_⟩
    · intro unclosed
      rw [front_eq_openString_iff.mpr unclosed] at isStray
      cases isStray
    · rintro kind spelled rest rfl spells
      rcases spells.exists_front rest with isOpen | ⟨found, length, measured, -⟩
      · rw [isOpen] at isStray
        cases isStray
      · rw [measured] at isStray
        cases isStray
  · rintro ⟨isFirst, closed, noToken⟩
    cases found : front text with
    | finished =>
        rw [front_eq_finished_iff.mp found] at isFirst
        cases isFirst
    | token kind length =>
        obtain ⟨spelled, rest, shape, -, spells, -⟩ := spells_of_front found
        exact absurd spells (noToken kind spelled rest shape)
    | openString =>
        exact absurd (front_eq_openString_iff.mp found) closed
    | stray other =>
        have same := head?_of_stray found
        rw [isFirst, Option.some.injEq] at same
        rw [same]

end Lexeme

/-! ## The longest gap -/

namespace Layout

/-- Layout in front of what follows it, as much of it as there can be. -/
structure LongestGap (gap rest : List Char) : Prop where
  fills : Fills gap rest
  longest :
    ∀ other behind,
      gap ++ rest = other ++ behind →
      Fills other behind →
      other.length ≤ gap.length

/-- A gap that some measure reaches to is the longest one. -/
theorem LongestGap.of_measure
    {gap rest : List Char}
    (fills : Fills gap rest)
    (measured :
      lead (gap ++ rest) = .clear gap.length ∨
        lead (gap ++ rest) = .openComment gap.length) :
    LongestGap gap rest where
  fills := fills
  longest := by
    intro other behind shape otherFills
    rw [shape, lead_append otherFills] at measured
    cases further : lead behind <;>
      simp only [further, Lead.behind, Lead.clear.injEq, Lead.openComment.injEq,
        reduceCtorEq, or_false, false_or] at measured <;>
      omega

theorem LongestGap.of_lead
    {gap rest : List Char}
    (measured : lead (gap ++ rest) = .clear gap.length) :
    LongestGap gap rest :=
  .of_measure (fills_of_lead measured) (.inl measured)

/-- No layout stands in front of a comment without an end. -/
theorem lead_of_unclosedComment
    {rest : List Char}
    (unclosed : UnclosedComment rest) :
    lead rest = .openComment 0 := by
  obtain ⟨content, rfl, noCloser⟩ := unclosed
  rw [lead, leadFrom, closerEnd?_eq_none_iff.mpr noCloser]

/-- Every text begins with a longest gap, up to which its layout is measured. -/
theorem exists_longestGap (text : List Char) :
    ∃ gap rest,
      text = gap ++ rest ∧ LongestGap gap rest ∧
        (lead text = .clear gap.length ∧ ¬ UnclosedComment rest ∨
          lead text = .openComment gap.length ∧ UnclosedComment rest) := by
  obtain ⟨gap, rest, rfl, fills, measured⟩ := exists_fills 0 text
  rw [Nat.zero_add] at measured
  change lead _ = _ ∨ lead _ = _ ∧ _ at measured
  refine ⟨gap, rest, rfl, .of_measure fills (measured.imp_right And.left), ?_⟩
  rcases measured with clear | ⟨isOpen, unclosed⟩
  · refine .inl ⟨clear, ?_⟩
    intro unclosed
    rw [lead_append fills, lead_of_unclosedComment unclosed] at clear
    cases clear
  · exact .inr ⟨isOpen, unclosed⟩

namespace LongestGap

variable {gap rest : List Char}

/-- A text has one longest gap. -/
theorem unique
    {other behind : List Char}
    (longest : LongestGap gap rest)
    (otherLongest : LongestGap other behind)
    (shape : gap ++ rest = other ++ behind) :
    gap = other ∧ rest = behind := by
  have noLonger := longest.longest other behind shape otherLongest.fills
  have noShorter := otherLongest.longest gap rest shape.symm longest.fills
  exact List.append_inj shape (Nat.le_antisymm noShorter noLonger)

theorem lead_eq_clear
    (longest : LongestGap gap rest)
    (closed : ¬ UnclosedComment rest) :
    lead (gap ++ rest) = .clear gap.length := by
  obtain ⟨other, behind, shape, otherLongest, measured⟩ :=
    exists_longestGap (gap ++ rest)
  obtain ⟨rfl, rfl⟩ := longest.unique otherLongest shape
  rcases measured with ⟨clear, -⟩ | ⟨-, unclosed⟩
  · exact clear
  · exact absurd unclosed closed

theorem lead_eq_openComment
    (longest : LongestGap gap rest)
    (unclosed : UnclosedComment rest) :
    lead (gap ++ rest) = .openComment gap.length := by
  rw [lead_append longest.fills, lead_of_unclosedComment unclosed]
  rfl

end LongestGap

end Layout

/-! ## What a scanner finds -/

/-- What a scanner finds behind a gap, apart from the place where it stands. -/
inductive Finding
  | finished
  | token (kind : TokenKind)
  | fault (cause : LexicalCause) (character : Char)
  deriving Repr, DecidableEq

/-- The answer about some characters at a place. -/
def Finding.answer
    (finding : Finding)
    (passed : List Char)
    (place : Position) :
    Except LexicalError Token :=
  match finding with
  | finished =>
      .ok (.endAt place)
  | token kind =>
      .ok { kind := kind, text := String.ofList passed, position := place }
  | fault cause character =>
      .error { cause := cause, character := character, position := place }

/--
What is found at the front of a text that consists of a gap, the characters passed
behind it, and the rest.  The gap is the longest one in every case.
-/
inductive Munches (gap : List Char) : List Char → List Char → Finding → Prop
  /-- A comment that is not closed is an error at its opener, and all of it is passed. -/
  | openComment {text : List Char} :
      Layout.LongestGap gap text →
      Layout.UnclosedComment text →
      Munches gap text [] (.fault .unterminatedComment '/')
  | finished :
      Layout.LongestGap gap [] →
      Munches gap [] [] .finished
  /-- A string that is not closed is an error at its quote, and all of it is passed. -/
  | openString {text : List Char} :
      Layout.LongestGap gap text →
      UnclosedString text →
      Munches gap text [] (.fault .unterminatedString '\'')
  /-- Otherwise the longest text that any token may have is the token. -/
  | token
      {kind : TokenKind}
      {spelled rest : List Char} :
      Layout.LongestGap gap (spelled ++ rest) →
      ¬ UnclosedString (spelled ++ rest) →
      LongestToken kind spelled rest →
      Munches gap spelled rest (.token kind)
  /-- Where no token may begin the first character is an error, and it alone is passed. -/
  | stray
      {character : Char}
      {rest : List Char} :
      Layout.LongestGap gap (character :: rest) →
      ¬ Layout.UnclosedComment (character :: rest) →
      ¬ UnclosedString (character :: rest) →
      (∀ kind spelled behind,
        character :: rest = spelled ++ behind → ¬ Spells kind spelled) →
      Munches gap [character] rest (.fault .unexpectedCharacter character)

/-- Something is found in every text. -/
theorem exists_munches (text : List Char) :
    ∃ gap passed rest finding,
      text = gap ++ (passed ++ rest) ∧ Munches gap passed rest finding := by
  obtain ⟨gap, rest, rfl, longest, measured⟩ := Layout.exists_longestGap text
  rcases measured with ⟨-, closed⟩ | ⟨-, unclosed⟩
  · cases found : front rest with
    | finished =>
        obtain rfl := front_eq_finished_iff.mp found
        exact ⟨gap, [], [], _, rfl, .finished longest⟩
    | token kind length =>
        obtain ⟨spelled, behind, rfl, rfl, -, -⟩ := spells_of_front found
        obtain ⟨closedString, longestToken⟩ := front_eq_token_iff_longest.mp found
        exact ⟨gap, spelled, behind, _, rfl, .token longest closedString longestToken⟩
    | openString =>
        have unclosed := front_eq_openString_iff.mp found
        exact ⟨gap, rest, [], _, by simp, .openString longest unclosed⟩
    | stray character =>
        obtain ⟨isFirst, closedString, noToken⟩ := front_eq_stray_iff.mp found
        obtain ⟨behind, rfl⟩ := List.head?_eq_some_iff.mp isFirst
        exact ⟨gap, [character], behind, _, rfl,
          .stray longest closed closedString noToken⟩
  · exact ⟨gap, rest, [], _, by simp, .openComment longest unclosed⟩

namespace Scanner

/-- A scanner behind some characters, in front of what is left of the text. -/
def past
    (scanner : Scanner)
    (passed rest : List Char) :
    Scanner where
  remaining := rest
  position := scanner.position.after passed
  exhausted := scanner.exhausted

theorem past_past
    (scanner : Scanner)
    (first second rest others : List Char) :
    (scanner.past first rest).past second others =
      scanner.past (first ++ second) others := by
  simp [past, Position.after_append]

theorem skip_eq_past
    {scanner : Scanner}
    {passed rest : List Char}
    (shape : scanner.remaining = passed ++ rest) :
    scanner.skip passed.length = scanner.past passed rest := by
  simp [skip, past, shape]

theorem skipAll_eq_past (scanner : Scanner) :
    scanner.skipAll = scanner.past scanner.remaining [] :=
  skip_eq_past (by simp)

end Scanner

/-- A comment without an end begins with its opener. -/
theorem Layout.UnclosedComment.head?
    {text : List Char}
    (unclosed : UnclosedComment text) :
    text.head? = some '/' := by
  obtain ⟨content, rfl, -⟩ := unclosed
  rfl

theorem Layout.not_unclosedComment_nil : ¬ UnclosedComment [] := by
  intro unclosed
  cases unclosed.head?

/-- No token begins as a comment without an end does. -/
theorem Lexeme.LongestToken.not_unclosedComment
    {kind : TokenKind}
    {spelled rest : List Char}
    (longestToken : LongestToken kind spelled rest) :
    ¬ Layout.UnclosedComment (spelled ++ rest) := by
  obtain ⟨⟨first, later, rfl, opens⟩, -⟩ := longestToken.spells.ends
  intro unclosed
  cases unclosed.head?
  exact absurd opens (by decide)

/-- Behind the longest gap, unless a comment is left open there, a scanner answers. -/
theorem Scanner.nextToken_of_longestGap
    {scanner : Scanner}
    {gap rest : List Char}
    (longest : Layout.LongestGap gap rest)
    (closed : ¬ Layout.UnclosedComment rest)
    (shape : scanner.remaining = gap ++ rest) :
    scanner.nextToken = (scanner.past gap rest).tokenHere := by
  rw [nextToken, shape, longest.lead_eq_clear closed, ← skip_eq_past shape]

namespace Munches

variable {scanner : Scanner}
variable {gap passed rest : List Char}
variable {finding : Finding}

/-- What is found in what is left of a text is what the scanner answers with. -/
theorem nextToken_eq
    (munches : Munches gap passed rest finding)
    (shape : scanner.remaining = gap ++ (passed ++ rest)) :
    scanner.nextToken =
      (finding.answer passed (scanner.position.after gap),
        scanner.past (gap ++ passed) rest) := by
  rw [← scanner.past_past gap passed (passed ++ rest) rest]
  cases munches with
  | openComment longest unclosed =>
      rw [List.append_nil] at shape ⊢
      rw [Scanner.nextToken, shape, longest.lead_eq_openComment unclosed]
      simp only [Scanner.skip_eq_past shape, Scanner.skipAll_eq_past]
      rfl
  | finished longest =>
      rw [Scanner.nextToken_of_longestGap longest Layout.not_unclosedComment_nil shape]
      rfl
  | openString longest unclosed =>
      have closed : ¬ Layout.UnclosedComment passed := by
        intro openComment
        obtain ⟨later, rfl, -⟩ := unclosed
        cases openComment.head?
      rw [List.append_nil] at shape ⊢
      rw [Scanner.nextToken_of_longestGap longest closed shape, Scanner.tokenHere,
        show (scanner.past gap passed).remaining = passed from rfl,
        front_eq_openString_iff.mpr unclosed, Scanner.skipAll_eq_past]
      rfl
  | token longest closedString longestToken =>
      have closed := longestToken.not_unclosedComment
      have measured :=
        front_eq_token_iff_longest.mpr ⟨closedString, longestToken⟩
      rw [Scanner.nextToken_of_longestGap longest closed shape, Scanner.tokenHere]
      have remaining : (scanner.past gap (passed ++ rest)).remaining = passed ++ rest :=
        rfl
      rw [remaining, measured]
      simp only [List.take_left, Scanner.skip_eq_past remaining]
      rfl
  | @stray character _ longest closed closedString noToken =>
      have measured := front_eq_stray_iff.mpr ⟨rfl, closedString, noToken⟩
      rw [Scanner.nextToken_of_longestGap longest closed shape, Scanner.tokenHere]
      have remaining :
          (scanner.past gap (character :: rest)).remaining = [character] ++ rest :=
        rfl
      rw [remaining, List.singleton_append, measured, ← Scanner.skip_eq_past remaining]
      rfl

/-- Everything but the end of input is found in at least one character. -/
theorem passed_ne_nil
    (munches : Munches gap passed rest finding)
    (notEnd : finding ≠ .finished) :
    passed ≠ [] := by
  rintro rfl
  cases munches with
  | openComment longest unclosed =>
      cases unclosed.head?
  | finished longest =>
      exact notEnd rfl
  | openString longest unclosed =>
      obtain ⟨later, shape, -⟩ := unclosed
      cases shape
  | token longest closedString longestToken =>
      obtain ⟨⟨first, later, shape, -⟩, -⟩ := longestToken.spells.ends
      cases shape

/-- What is left behind anything but the end of input is shorter than the text. -/
theorem length_lt
    (munches : Munches gap passed rest finding)
    (notEnd : finding ≠ .finished) :
    rest.length < (gap ++ (passed ++ rest)).length := by
  have someChars := List.length_pos_iff.mpr (munches.passed_ne_nil notEnd)
  simp only [List.length_append]
  omega

end Munches

/-- What holds of a text if it does of what is left behind the first finding in it. -/
theorem munch_induction
    {motive : List Char → Prop}
    (found :
      ∀ gap passed rest finding,
        Munches gap passed rest finding →
        (finding ≠ .finished → motive rest) →
        motive (gap ++ (passed ++ rest)))
    (text : List Char) :
    motive text := by
  obtain ⟨gap, passed, rest, finding, shape, munches⟩ := exists_munches text
  rw [shape]
  apply found gap passed rest finding munches
  intro notEnd
  have shorter := shape ▸ munches.length_lt notEnd
  exact munch_induction found rest
termination_by text.length
decreasing_by exact shorter

/--
A scanner passes the longest gap of layout and answers with exactly what is found
behind it: a comment without an end at its opener, the end of input, a string without
an end at its quote, the token with the longest text that any token may have there, or
the first character as a stray one, right behind which the scanner then stands.
-/
theorem Scanner.nextToken_eq_iff_munches
    (scanner : Scanner)
    (answer : Except LexicalError Token)
    (behind : Scanner) :
    scanner.nextToken = (answer, behind) ↔
      ∃ gap passed rest finding,
        scanner.remaining = gap ++ (passed ++ rest) ∧
          Munches gap passed rest finding ∧
          answer = finding.answer passed (scanner.position.after gap) ∧
          behind = scanner.past (gap ++ passed) rest := by
  constructor
  · intro scanned
    obtain ⟨gap, passed, rest, finding, shape, munches⟩ :=
      exists_munches scanner.remaining
    rw [munches.nextToken_eq shape] at scanned
    cases scanned
    exact ⟨gap, passed, rest, finding, shape, munches, rfl, rfl⟩
  · rintro ⟨gap, passed, rest, finding, shape, munches, rfl, rfl⟩
    exact munches.nextToken_eq shape

/-- A slash cannot both end the opener of a comment and close the comment. -/
example :
    (Scanner.ofText "1./*/").nextToken.2.nextToken.2.nextToken.1 =
      .error
        { cause := .unterminatedComment
          character := '/'
          position := { offset := 2, line := 1, column := 3 } } := by
  decide +kernel

end SelectCypher
