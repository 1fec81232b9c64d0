import Mathlib.Data.List.Basic
import SelectCypher.Proofs.Text.Blank
import SelectCypher.Token.Lexeme

namespace SelectCypher.Lexeme

/-!
# The lexical forms of tokens

`Spells` lists the characters that a token of each kind may consist of, and
`EndsBefore` says when a token ends: no longer one of its kind could be read
there.  Together they describe what `front` measures.
-/

/-- The operators and marks with their kinds. -/
def symbols : List (List Char × TokenKind) :=
  [(['<', '='], .operator .lessOrEqual), (['<', '>'], .operator .notEqual),
    (['<'], .operator .less), (['>', '='], .operator .greaterOrEqual),
    (['>'], .operator .greater), (['!', '='], .operator .notEqual),
    (['='], .operator .equal), (['('], .leftParen), ([')'], .rightParen),
    ([','], .comma), (['*'], .asterisk)]

/-- The characters that tokens of a kind may consist of. -/
inductive Spells : TokenKind → List Char → Prop
  | symbol
      {kind : TokenKind}
      {text : List Char} :
      (text, kind) ∈ symbols →
      Spells kind text
  | string (content : List Char) :
      Spells .stringLiteral ('\'' :: Text.doubled content ++ ['\''])
  | whole {digits : List Char} :
      digits ≠ [] →
      (∀ digit ∈ digits, digit.isDigit = true) →
      Spells .number digits
  | decimal {digits fraction : List Char} :
      digits ≠ [] →
      (∀ digit ∈ digits, digit.isDigit = true) →
      fraction ≠ [] →
      (∀ digit ∈ fraction, digit.isDigit = true) →
      Spells .number (digits ++ '.' :: fraction)
  | word
      {first : Char}
      {rest : List Char} :
      Text.isNameStart first = true →
      (∀ character ∈ rest, Text.isNamePart character = true) →
      Spells (.ofWord (String.ofList (first :: rest))) (first :: rest)

/-- A token that ends where other characters begin: they would not extend it. -/
def EndsBefore
    (kind : TokenKind)
    (spelled rest : List Char) :
    Prop :=
  match kind with
  | .operator .less =>
      ∀ next ∈ rest.head?, next ≠ '=' ∧ next ≠ '>'
  | .operator .greater =>
      ∀ next ∈ rest.head?, next ≠ '='
  | .stringLiteral =>
      ∀ next ∈ rest.head?, next ≠ '\''
  | .number =>
      (∀ next ∈ rest.head?, next.isDigit = false) ∧
        ('.' ∉ spelled → fractionLength rest = 0)
  | .identifier | .keyword _ =>
      ∀ next ∈ rest.head?, Text.isNamePart next = false
  | _ =>
      True

/-- The characters that can extend some token. -/
def extendsLexeme (character : Char) : Bool :=
  Text.isNamePart character || character = '.' || character = '=' ||
    character = '>' || character = '\''

theorem ofWord_cases (word : String) :
    TokenKind.ofWord word = .identifier ∨
      ∃ keyword, TokenKind.ofWord word = .keyword keyword := by
  unfold TokenKind.ofWord
  split
  · exact .inr ⟨_, rfl⟩
  · exact .inl rfl

/-- A word is of no kind but a name or a keyword. -/
theorem ofWord_ne
    {kind : TokenKind}
    (notName : kind ≠ .identifier)
    (notKeyword : ∀ keyword, kind ≠ .keyword keyword)
    (word : String) :
    kind ≠ .ofWord word := by
  rcases ofWord_cases word with isName | ⟨keyword, isKeyword⟩
  · rw [isName]
    exact notName
  · rw [isKeyword]
    exact notKeyword keyword

theorem endsBefore_ofWord
    {word : String}
    {spelled rest : List Char} :
    EndsBefore (.ofWord word) spelled rest ↔
      ∀ next ∈ rest.head?, Text.isNamePart next = false := by
  rcases ofWord_cases word with kind | ⟨keyword, kind⟩ <;> rw [kind] <;> rfl

/-! ## Runs of characters -/

/-- A run of characters stops at the first one that is not kept. -/
theorem takeWhile_append_of_head?
    {keeps : Char → Bool}
    {run rest : List Char}
    (kept : ∀ character ∈ run, keeps character = true)
    (stops : ∀ next ∈ rest.head?, keeps next = false) :
    (run ++ rest).takeWhile keeps = run := by
  rw [List.takeWhile_append_of_pos kept]
  cases rest with
  | nil =>
      simp
  | cons next later =>
      simp [stops next rfl]

/-- Every text begins with a run of the characters that are kept. -/
theorem exists_run
    (keeps : Char → Bool)
    (text : List Char) :
    ∃ run rest,
      text = run ++ rest ∧
        (∀ character ∈ run, keeps character = true) ∧
        ∀ next ∈ rest.head?, keeps next = false := by
  refine ⟨text.takeWhile keeps, text.dropWhile keeps,
    List.takeWhile_append_dropWhile.symm, ?_, ?_⟩
  · exact List.all_eq_true.mp List.all_takeWhile
  · intro next isFirst
    exact Text.head?_dropWhile isFirst

theorem digitsLength_append
    {digits rest : List Char}
    (isDigits : ∀ digit ∈ digits, digit.isDigit = true)
    (stops : ∀ next ∈ rest.head?, next.isDigit = false) :
    digitsLength (digits ++ rest) = digits.length := by
  rw [digitsLength, takeWhile_append_of_head? isDigits stops]

theorem digitsLength_eq_zero_iff
    {text : List Char} :
    digitsLength text = 0 ↔ ∀ next ∈ text.head?, next.isDigit = false := by
  cases text with
  | nil =>
      simp [digitsLength]
  | cons character rest =>
      cases isDigit : character.isDigit <;> simp [digitsLength, isDigit]

/-- A text without a fraction has none in any first part of it either. -/
theorem fractionLength_of_append
    {first second : List Char}
    (nothing : fractionLength (first ++ second) = 0) :
    fractionLength first = 0 := by
  unfold fractionLength
  split
  · rename_i rest
    rw [if_pos]
    rw [List.cons_append, fractionLength] at nothing
    have noDigit : digitsLength (rest ++ second) = 0 := by
      split at nothing
      · assumption
      · simp at nothing
    rw [digitsLength_eq_zero_iff] at noDigit ⊢
    intro next isFirst
    exact noDigit next (List.mem_head?_append_of_mem_head? isFirst)
  · rfl

/-- A token that ends before a text ends before any first part of it too. -/
theorem EndsBefore.of_append
    {kind : TokenKind}
    {spelled first second : List Char}
    (ends : EndsBefore kind spelled (first ++ second)) :
    EndsBefore kind spelled first := by
  have sameFirst :
      ∀ next ∈ first.head?, next ∈ (first ++ second).head? :=
    fun next isFirst => List.mem_head?_append_of_mem_head? isFirst
  unfold EndsBefore at ends ⊢
  split at ends
  case h_4 =>
    exact ⟨fun next isFirst => ends.1 next (sameFirst next isFirst),
      fun isWhole => fractionLength_of_append (ends.2 isWhole)⟩
  case h_7 =>
    trivial
  all_goals
    intro next isFirst
    exact ends next (sameFirst next isFirst)

/-! ## Symbols -/

theorem symbol?_eq_of_mem
    {kind : TokenKind}
    {text rest : List Char}
    (listed : (text, kind) ∈ symbols)
    (ends : EndsBefore kind text rest) :
    symbol? (text ++ rest) = some (kind, text.length) := by
  simp only [symbols, List.mem_cons, Prod.mk.injEq, List.not_mem_nil,
    or_false] at listed
  rcases listed with ⟨rfl, rfl⟩ | ⟨rfl, rfl⟩ | ⟨rfl, rfl⟩ | ⟨rfl, rfl⟩ |
    ⟨rfl, rfl⟩ | ⟨rfl, rfl⟩ | ⟨rfl, rfl⟩ | ⟨rfl, rfl⟩ | ⟨rfl, rfl⟩ |
    ⟨rfl, rfl⟩ | ⟨rfl, rfl⟩
  case inr.inr.inl | inr.inr.inr.inr.inl =>
    -- The two symbols that are the beginning of longer ones.
    cases rest with
    | nil =>
        rfl
    | cons next later =>
        have different := ends next rfl
        simp_all [symbol?]
  all_goals rfl

theorem mem_of_symbol?
    {kind : TokenKind}
    {text : List Char}
    {length : Nat}
    (found : symbol? text = some (kind, length)) :
    ∃ spelled rest,
      text = spelled ++ rest ∧ length = spelled.length ∧
        (spelled, kind) ∈ symbols ∧ EndsBefore kind spelled rest := by
  unfold symbol? at found
  split at found <;>
    simp only [Option.some.injEq, Prod.mk.injEq, reduceCtorEq] at found <;>
    obtain ⟨rfl, rfl⟩ := found
  case h_3 rest notEqual notGreater =>
    refine ⟨['<'], rest, rfl, rfl, by simp [symbols], ?_⟩
    cases rest with
    | nil =>
        simp [EndsBefore]
    | cons next later =>
        simp_all [EndsBefore]
  case h_5 rest notEqual =>
    refine ⟨['>'], rest, rfl, rfl, by simp [symbols], ?_⟩
    cases rest with
    | nil =>
        simp [EndsBefore]
    | cons next later =>
        simp_all [EndsBefore]
  case h_1 | h_2 | h_4 | h_6 =>
    exact ⟨[_, _], _, rfl, rfl, by simp [symbols], trivial⟩
  all_goals
    exact ⟨[_], _, rfl, rfl, by simp [symbols], trivial⟩

/-- A text begins with no operator or mark if they have no such character. -/
theorem symbol?_eq_none
    {test : Char → Bool}
    {first : Char}
    {rest : List Char}
    (passes : test first = true)
    (fails : (symbols.all fun entry => entry.1.all fun other => !test other) = true) :
    symbol? (first :: rest) = none := by
  cases found : symbol? (first :: rest) with
  | none =>
      rfl
  | some entry =>
      obtain ⟨spelled, later, shape, -, listed, -⟩ := mem_of_symbol? found
      cases spelled with
      | nil =>
          simp [symbols] at listed
      | cons character more =>
          simp only [List.cons_append, List.cons.injEq] at shape
          have entryFails := List.all_eq_true.mp fails _ listed
          have failed := List.all_eq_true.mp entryFails character (by simp)
          rw [← shape.1, passes] at failed
          cases failed

/-! ## Strings -/

/-- A string goes on behind doubled quotes. -/
theorem stringEnd?_append
    (passed : Nat)
    (content rest : List Char) :
    stringEnd? passed (Text.doubled content ++ rest) =
      stringEnd? (passed + (Text.doubled content).length) rest := by
  induction content generalizing passed with
  | nil =>
      rfl
  | cons character content inductionHypothesis =>
      by_cases isQuote : character = '\''
      · subst isQuote
        have pair :
            Text.doubled ('\'' :: content) =
              '\'' :: '\'' :: Text.doubled content :=
          rfl
        rw [pair, List.cons_append, List.cons_append, stringEnd?,
          inductionHypothesis, List.length_cons, List.length_cons]
        congr 1
        omega
      · have single :
            Text.doubled (character :: content) =
              character :: Text.doubled content := by
          simp [Text.doubled, isQuote]
        rw [single, List.cons_append, stringEnd?.eq_3 _ _ _ (by simp [isQuote])
          (by simpa using isQuote), inductionHypothesis, List.length_cons]
        congr 1
        omega

theorem stringEnd?_doubled
    {content rest : List Char}
    (passed : Nat)
    (stops : ∀ next ∈ rest.head?, next ≠ '\'') :
    stringEnd? passed (Text.doubled content ++ '\'' :: rest) =
      some (passed + (Text.doubled content).length + 1) := by
  rw [stringEnd?_append]
  cases rest with
  | nil =>
      rfl
  | cons next later =>
      have different := stops next rfl
      rw [stringEnd?.eq_2 _ _ (by simp [different])]

/-- What ends in a quote that is not doubled has a content. -/
theorem exists_content_of_stringEnd?
    {passed length : Nat}
    {text : List Char}
    (found : stringEnd? passed text = some length) :
    ∃ content rest,
      text = Text.doubled content ++ '\'' :: rest ∧
        length = passed + (Text.doubled content).length + 1 ∧
        ∀ next ∈ rest.head?, next ≠ '\'' := by
  fun_induction stringEnd? passed text with
  | case1 passed rest inductionHypothesis =>
      obtain ⟨content, later, rfl, rfl, stops⟩ := inductionHypothesis found
      refine ⟨'\'' :: content, later, rfl, ?_, stops⟩
      simp only [Text.doubled, List.flatMap_cons, ↓reduceIte, List.length_append,
        List.length_cons, List.length_nil]
      omega
  | case2 passed rest notPair =>
      simp only [Option.some.injEq] at found
      refine ⟨[], rest, rfl, found.symm, ?_⟩
      cases rest with
      | nil =>
          simp
      | cons next later =>
          simpa using notPair later
  | case3 passed character rest notPair notQuote inductionHypothesis =>
      obtain ⟨content, later, rfl, rfl, stops⟩ := inductionHypothesis found
      have different : character ≠ '\'' := by
        simpa using notQuote
      refine ⟨character :: content, later, ?_, ?_, stops⟩
      · simp [Text.doubled, different]
      · simp only [Text.doubled, List.flatMap_cons, different, ↓reduceIte,
          List.length_append, List.length_cons, List.length_nil]
        omega
  | case4 passed =>
      simp at found

/-! ## Numbers and words -/

theorem notMem_of_digits
    {digits : List Char}
    (isDigits : ∀ digit ∈ digits, digit.isDigit = true) :
    '.' ∉ digits := by
  intro isPoint
  exact absurd (isDigits '.' isPoint) (by decide)

theorem fractionLength_append
    {fraction rest : List Char}
    (someDigits : fraction ≠ [])
    (isDigits : ∀ digit ∈ fraction, digit.isDigit = true)
    (stops : ∀ next ∈ rest.head?, next.isDigit = false) :
    fractionLength ('.' :: (fraction ++ rest)) = fraction.length + 1 := by
  have positive := List.length_pos_iff.mpr someDigits
  rw [fractionLength, digitsLength_append isDigits stops, if_neg (by omega)]

theorem numberLength_append
    {spelled rest : List Char}
    (spells : Spells .number spelled)
    (ends : EndsBefore .number spelled rest) :
    numberLength (spelled ++ rest) = spelled.length := by
  obtain ⟨stops, noFraction⟩ := ends
  unfold numberLength
  generalize isNumber : TokenKind.number = kind at spells
  cases spells with
  | symbol listed =>
      subst isNumber
      simp [symbols] at listed
  | string content =>
      cases isNumber
  | word opens inside =>
      exact absurd isNumber (ofWord_ne (by simp) (by simp) _)
  | whole someDigits isDigits =>
      rw [digitsLength_append isDigits stops, List.drop_left,
        noFraction (notMem_of_digits isDigits), Nat.add_zero]
  | @decimal digits fraction someDigits isDigits someFraction isFraction =>
      have point :
          ∀ next ∈ ('.' :: (fraction ++ rest)).head?, next.isDigit = false := by
        simp
      rw [List.append_assoc, List.cons_append, digitsLength_append isDigits point,
        List.drop_left, fractionLength_append someFraction isFraction stops,
        List.length_append, List.length_cons]

/-- A text that begins with a digit begins with a number. -/
theorem exists_number
    {first : Char}
    {later : List Char}
    (isDigit : first.isDigit = true) :
    ∃ spelled rest,
      first :: later = spelled ++ rest ∧ Spells .number spelled ∧
        EndsBefore .number spelled rest := by
  obtain ⟨digits, rest, shape, isDigits, stops⟩ :=
    exists_run Char.isDigit (first :: later)
  have someDigits : digits ≠ [] := by
    rintro rfl
    rw [List.nil_append] at shape
    have noDigit := stops first (by simp [← shape])
    simp [isDigit] at noDigit
  by_cases noFraction : fractionLength rest = 0
  · exact ⟨digits, rest, shape, .whole someDigits isDigits, stops,
      fun _ => noFraction⟩
  · unfold fractionLength at noFraction
    split at noFraction
    · rename_i behind
      obtain ⟨fraction, rest, rfl, isFraction, fractionStops⟩ :=
        exists_run Char.isDigit behind
      have someFraction : fraction ≠ [] := by
        rintro rfl
        exact noFraction (if_pos (digitsLength_eq_zero_iff.mpr fractionStops))
      refine ⟨digits ++ '.' :: fraction, rest, by simp [shape],
        .decimal someDigits isDigits someFraction isFraction, fractionStops, ?_⟩
      intro noPoint
      simp at noPoint
    · exact absurd rfl noFraction

theorem isNamePart_of_isNameStart
    {character : Char}
    (opens : Text.isNameStart character = true) :
    Text.isNamePart character = true := by
  simp only [Text.isNameStart, Text.isNamePart, Char.isAlphanum,
    Bool.or_eq_true] at opens ⊢
  rcases opens with letter | underscore
  · exact .inl (.inl letter)
  · exact .inr underscore

/-- The code points of the ASCII letters. -/
theorem toNat_of_isAlpha
    {letter : Char}
    (isAlpha : letter.isAlpha = true) :
    65 ≤ letter.toNat ∧ letter.toNat ≤ 90 ∨ 97 ≤ letter.toNat ∧ letter.toNat ≤ 122 := by
  rcases (Bool.or_eq_true _ _).mp isAlpha with upper | lower
  · exact .inl (of_decide_eq_true upper)
  · rcases (Bool.and_eq_true _ _).mp lower with ⟨least, greatest⟩
    exact .inr ⟨of_decide_eq_true least, of_decide_eq_true greatest⟩

theorem isDigit_eq_false_of_isNameStart
    {character : Char}
    (opens : Text.isNameStart character = true) :
    character.isDigit = false := by
  rw [← Bool.not_eq_true, Char.isDigit_iff_toNat]
  intro digit
  have least : 48 ≤ character.toNat := digit.1
  have greatest : character.toNat ≤ 57 := digit.2
  simp only [Text.isNameStart, Bool.or_eq_true, decide_eq_true_eq] at opens
  rcases opens with letter | rfl
  · have codes := toNat_of_isAlpha letter
    omega
  · exact absurd greatest (by decide)

/-- A text that begins with an opening character of names begins with a word. -/
theorem exists_word
    {first : Char}
    {later : List Char}
    (opens : Text.isNameStart first = true) :
    ∃ inside rest,
      later = inside ++ rest ∧
        (∀ character ∈ inside, Text.isNamePart character = true) ∧
        (∀ next ∈ rest.head?, Text.isNamePart next = false) ∧
        word (first :: later) = first :: inside := by
  obtain ⟨inside, rest, rfl, isInside, stops⟩ :=
    exists_run Text.isNamePart later
  refine ⟨inside, rest, rfl, isInside, stops, ?_⟩
  have kept : ∀ c ∈ first :: inside, Text.isNamePart c = true := by
    simpa using ⟨isNamePart_of_isNameStart opens, isInside⟩
  exact takeWhile_append_of_head? kept stops

/-! ## What stands at the front of a text -/

theorem front_of_digit
    {first : Char}
    {rest : List Char}
    (isDigit : first.isDigit = true) :
    front (first :: rest) = .token .number (numberLength (first :: rest)) := by
  have notQuote : first ≠ '\'' := by
    rintro rfl
    exact absurd isDigit (by decide)
  rw [front, symbol?_eq_none isDigit (by decide)]
  simp only [frontOther.eq_3 first rest notQuote, isDigit, ↓reduceIte]

theorem front_of_isNameStart
    {first : Char}
    {rest : List Char}
    (opens : Text.isNameStart first = true) :
    front (first :: rest) =
      .token (.ofWord (String.ofList (word (first :: rest))))
        (word (first :: rest)).length := by
  have notQuote : first ≠ '\'' := by
    rintro rfl
    exact absurd opens (by decide)
  have notDigit := isDigit_eq_false_of_isNameStart opens
  rw [front, symbol?_eq_none opens (by decide)]
  simp only [frontOther.eq_3 first rest notQuote, notDigit, opens, ↓reduceIte,
    Bool.false_eq_true]

theorem front_of_quote (rest : List Char) :
    front ('\'' :: rest) =
      match stringEnd? 1 rest with
      | some length =>
          .token .stringLiteral length
      | none =>
          .openString :=
  rfl

theorem front_of_spells
    {kind : TokenKind}
    {spelled rest : List Char}
    (spells : Spells kind spelled)
    (ends : EndsBefore kind spelled rest) :
    front (spelled ++ rest) = .token kind spelled.length := by
  have digitFirst :
      ∀ {digits later : List Char},
        digits ≠ [] →
        (∀ digit ∈ digits, digit.isDigit = true) →
        front (digits ++ later) = .token .number (numberLength (digits ++ later)) := by
    intro digits later someDigits isDigits
    cases digits with
    | nil =>
        exact absurd rfl someDigits
    | cons first more =>
        exact front_of_digit (isDigits first (by simp))
  cases spells with
  | symbol listed =>
      rw [front, symbol?_eq_of_mem listed ends]
  | string content =>
      have measured := @stringEnd?_doubled content rest 1 ends
      simp only [List.cons_append, List.append_assoc, List.nil_append,
        front_of_quote, measured, List.length_cons, List.length_append,
        List.length_nil]
      congr 1
      omega
  | whole someDigits isDigits =>
      rw [digitFirst someDigits isDigits,
        numberLength_append (.whole someDigits isDigits) ends]
  | @decimal digits fraction someDigits isDigits someFraction isFraction =>
      rw [List.append_assoc, digitFirst someDigits isDigits, ← List.append_assoc,
        numberLength_append
          (.decimal someDigits isDigits someFraction isFraction) ends]
  | @word first later opens inside =>
      have kept : ∀ c ∈ first :: later, Text.isNamePart c = true := by
        simpa using ⟨isNamePart_of_isNameStart opens, inside⟩
      have whole : word (first :: later ++ rest) = first :: later :=
        takeWhile_append_of_head? kept (endsBefore_ofWord.mp ends)
      rw [List.cons_append, front_of_isNameStart opens, ← List.cons_append, whole]

theorem spells_of_front
    {text : List Char}
    {kind : TokenKind}
    {length : Nat}
    (found : front text = .token kind length) :
    ∃ spelled rest,
      text = spelled ++ rest ∧ length = spelled.length ∧ Spells kind spelled ∧
        EndsBefore kind spelled rest := by
  cases symbolic : symbol? text with
  | some entry =>
      simp only [front, symbolic, Front.token.injEq] at found
      obtain ⟨rfl, rfl⟩ := found
      obtain ⟨spelled, rest, shape, length, listed, ends⟩ :=
        mem_of_symbol? symbolic
      exact ⟨spelled, rest, shape, length, .symbol listed, ends⟩
  | none =>
      simp only [front, symbolic] at found
      unfold frontOther at found
      split at found
      · cases found
      · split at found
        · rename_i measured
          simp only [Front.token.injEq] at found
          obtain ⟨rfl, rfl⟩ := found
          obtain ⟨content, rest, rfl, rfl, stops⟩ :=
            exists_content_of_stringEnd? measured
          refine ⟨_, rest, by simp, ?_, .string content, stops⟩
          simp only [List.cons_append, List.length_cons, List.length_append,
            List.length_nil]
          omega
        · cases found
      · split at found
        · rename_i isDigit
          simp only [Front.token.injEq] at found
          obtain ⟨rfl, rfl⟩ := found
          obtain ⟨spelled, rest, shape, spells, ends⟩ := exists_number isDigit
          exact ⟨spelled, rest, shape, shape ▸ numberLength_append spells ends,
            spells, ends⟩
        · split at found
          · rename_i later _ _ opens
            simp only [Front.token.injEq] at found
            obtain ⟨rfl, rfl⟩ := found
            obtain ⟨inside, rest, rfl, isInside, stops, measured⟩ :=
              @exists_word _ later opens
            rw [measured]
            exact ⟨_, rest, rfl, rfl, .word opens isInside,
              endsBefore_ofWord.mpr stops⟩
          · cases found

/-- Nothing stands at the front of an empty text, and something at any other. -/
theorem front_eq_finished_iff
    {text : List Char} :
    front text = .finished ↔ text = [] := by
  constructor
  · intro finished
    unfold front at finished
    split at finished
    · cases finished
    · unfold frontOther at finished
      split at finished
      · rfl
      · split at finished <;> cases finished
      · split at finished
        · cases finished
        · split at finished <;> cases finished
  · rintro rfl
    rfl

/-- A character that begins no token is the first of its text. -/
theorem head?_of_stray
    {text : List Char}
    {character : Char}
    (found : front text = .stray character) :
    text.head? = some character := by
  unfold front at found
  split at found
  · cases found
  · unfold frontOther at found
    split at found
    · cases found
    · split at found <;> cases found
    · split at found
      · cases found
      · split at found
        · cases found
        · cases found
          rfl

/-- A string that is not closed begins with its quote. -/
theorem head?_of_openString
    {text : List Char}
    (found : front text = .openString) :
    text.head? = some '\'' := by
  unfold front at found
  split at found
  · cases found
  · unfold frontOther at found
    split at found
    · cases found
    · rfl
    · split at found
      · cases found
      · split at found <;> cases found

/-! ## The ends of a token -/

theorem isNamePart_of_isDigit
    {character : Char}
    (isDigit : character.isDigit = true) :
    Text.isNamePart character = true := by
  simp [Text.isNamePart, Char.isAlphanum, isDigit]

/-- The code points of the characters that names are made of. -/
theorem toNat_of_isNamePart
    {character : Char}
    (inside : Text.isNamePart character = true) :
    48 ≤ character.toNat ∧ character.toNat ≤ 122 := by
  simp only [Text.isNamePart, Char.isAlphanum, Bool.or_eq_true,
    decide_eq_true_eq] at inside
  rcases inside with (letter | digit) | rfl
  · have codes := toNat_of_isAlpha letter
    omega
  · rw [Char.isDigit_iff_toNat] at digit
    have least : 48 ≤ character.toNat := digit.1
    have greatest : character.toNat ≤ 57 := digit.2
    omega
  · decide

theorem isBlank_eq_false_of_isNamePart
    {character : Char}
    (inside : Text.isNamePart character = true) :
    Text.isBlank character = false := by
  have range := toNat_of_isNamePart inside
  simp [Text.isBlank]
  omega

/-- The characters that begin a token: none of them opens layout. -/
def opensLexeme (character : Char) : Bool :=
  !Text.isBlank character && character != '-' && character != '/'

theorem opensLexeme_of_isNamePart
    {character : Char}
    (inside : Text.isNamePart character = true) :
    opensLexeme character = true := by
  have notBlank := isBlank_eq_false_of_isNamePart inside
  have notDash : character ≠ '-' := by
    rintro rfl
    exact absurd inside (by decide)
  have notSlash : character ≠ '/' := by
    rintro rfl
    exact absurd inside (by decide)
  simp [opensLexeme, notBlank, notDash, notSlash]

/-- A row of characters that names are made of has ends as tokens have. -/
theorem ends_of_isNamePart
    {text : List Char}
    (someLeft : text ≠ [])
    (inside : ∀ character ∈ text, Text.isNamePart character = true) :
    (∃ first later, text = first :: later ∧ opensLexeme first = true) ∧
      ∃ before last, text = before ++ [last] ∧ Text.isBlank last = false := by
  constructor
  · cases text with
    | nil =>
        exact absurd rfl someLeft
    | cons first later =>
        exact ⟨first, later, rfl, opensLexeme_of_isNamePart (inside first (by simp))⟩
  · refine ⟨text.dropLast, text.getLast someLeft,
      (List.dropLast_append_getLast someLeft).symm, ?_⟩
    exact isBlank_eq_false_of_isNamePart (inside _ (List.getLast_mem someLeft))

/-- No token begins like layout, and none ends with white space. -/
theorem Spells.ends
    {kind : TokenKind}
    {spelled : List Char}
    (spells : Spells kind spelled) :
    (∃ first later, spelled = first :: later ∧ opensLexeme first = true) ∧
      ∃ before last, spelled = before ++ [last] ∧ Text.isBlank last = false := by
  cases spells with
  | symbol listed =>
      simp only [symbols, List.mem_cons, Prod.mk.injEq, List.not_mem_nil,
        or_false] at listed
      rcases listed with ⟨rfl, -⟩ | ⟨rfl, -⟩ | ⟨rfl, -⟩ | ⟨rfl, -⟩ | ⟨rfl, -⟩ |
        ⟨rfl, -⟩ | ⟨rfl, -⟩ | ⟨rfl, -⟩ | ⟨rfl, -⟩ | ⟨rfl, -⟩ | ⟨rfl, -⟩
      case inl | inr.inl | inr.inr.inr.inl | inr.inr.inr.inr.inr.inl =>
        exact ⟨⟨_, _, rfl, rfl⟩, [_], _, rfl, rfl⟩
      all_goals
        exact ⟨⟨_, _, rfl, rfl⟩, [], _, rfl, rfl⟩
  | string content =>
      exact ⟨⟨_, _, rfl, rfl⟩, _, _, rfl, rfl⟩
  | whole someDigits isDigits =>
      exact ends_of_isNamePart someDigits fun digit member =>
        isNamePart_of_isDigit (isDigits digit member)
  | decimal someDigits isDigits someFraction isFraction =>
      have wholeEnds :=
        ends_of_isNamePart someDigits fun digit member =>
          isNamePart_of_isDigit (isDigits digit member)
      have fractionEnds :=
        ends_of_isNamePart someFraction fun digit member =>
          isNamePart_of_isDigit (isFraction digit member)
      obtain ⟨⟨first, later, rfl, opens⟩, -⟩ := wholeEnds
      obtain ⟨-, before, last, rfl, notBlank⟩ := fractionEnds
      exact ⟨⟨first, _, rfl, opens⟩, first :: later ++ '.' :: before, last,
        by simp, notBlank⟩
  | word opens inside =>
      refine ends_of_isNamePart (by simp) ?_
      simpa using ⟨isNamePart_of_isNameStart opens, inside⟩

/-- What stands behind a token is shorter than the text. -/
theorem Spells.length_lt
    {kind : TokenKind}
    {text gap spelled rest : List Char}
    (spells : Spells kind spelled)
    (shape : text = gap ++ (spelled ++ rest)) :
    rest.length < text.length := by
  obtain ⟨⟨first, later, rfl, -⟩, -⟩ := spells.ends
  simp only [shape, List.length_append, List.length_cons]
  omega

/-- No token is spelled as the end of input. -/
theorem Spells.ne_endOfInput
    {kind : TokenKind}
    {spelled : List Char}
    (spells : Spells kind spelled) :
    kind ≠ .endOfInput := by
  cases spells with
  | symbol listed =>
      rintro rfl
      simp [symbols] at listed
  | word opens inside =>
      exact (ofWord_ne (by simp) (by simp) _).symm
  | _ =>
      simp

/-- Every token ends before a character that extends none. -/
theorem endsBefore_of_head?
    {kind : TokenKind}
    {spelled rest : List Char}
    (stops : ∀ next ∈ rest.head?, extendsLexeme next = false) :
    EndsBefore kind spelled rest := by
  have noFraction : fractionLength rest = 0 := by
    unfold fractionLength
    split
    · exact absurd (stops '.' rfl) (by decide)
    · rfl
  have others :
      ∀ next ∈ rest.head?,
        next.isDigit = false ∧ Text.isNamePart next = false ∧ next ≠ '=' ∧
          next ≠ '>' ∧ next ≠ '\'' := by
    intro next isFirst
    have notExtending := stops next isFirst
    simp only [extendsLexeme, Bool.or_eq_false_iff, decide_eq_false_iff_not]
      at notExtending
    obtain ⟨⟨⟨⟨notPart, -⟩, notEqual⟩, notGreater⟩, notQuote⟩ := notExtending
    refine ⟨?_, notPart, notEqual, notGreater, notQuote⟩
    cases isDigit : next.isDigit with
    | false =>
        rfl
    | true =>
        rw [isNamePart_of_isDigit isDigit] at notPart
        cases notPart
  unfold EndsBefore
  split
  · exact fun next isFirst =>
      ⟨(others next isFirst).2.2.1, (others next isFirst).2.2.2.1⟩
  · exact fun next isFirst => (others next isFirst).2.2.1
  · exact fun next isFirst => (others next isFirst).2.2.2.2
  · exact ⟨fun next isFirst => (others next isFirst).1, fun _ => noFraction⟩
  · exact fun next isFirst => (others next isFirst).2.1
  · exact fun next isFirst => (others next isFirst).2.1
  · trivial

/-- The only spelling of an opening parenthesis. -/
theorem Spells.eq_of_leftParen
    {spelled : List Char}
    (spells : Spells .leftParen spelled) :
    spelled = ['('] := by
  generalize isOpening : TokenKind.leftParen = kind at spells
  cases spells with
  | symbol listed =>
      subst isOpening
      simpa [symbols] using listed
  | word opens inside =>
      exact absurd isOpening (ofWord_ne (by simp) (by simp) _)
  | _ =>
      cases isOpening

end SelectCypher.Lexeme
