import SelectCypher.Proofs.Token.Scanner
import SelectCypher.Proofs.Translation.Agreement

namespace SelectCypher

/-!
# One sweep over a text

The search for unsupported words begins anew behind every unexpected character.  A
scanner that is asked on and on over the whole text hears the same words, since what
it finds in the rest of a text depends neither on what stands before nor on where the
rest begins.  So each name counts as a whole, and what stands in layout and in strings
counts nothing.
-/

/-- Whether there is more to find behind a finding. -/
def Finding.goesOn : Finding → Bool
  | finished => false
  | token _ => true
  | fault cause _ => cause == .unexpectedCharacter

/-- The unsupported word that a finding spells, if it is a name. -/
def Finding.unsupportedWord?
    (finding : Finding)
    (passed : List Char) :
    Option String :=
  match finding with
  | token .identifier =>
      SelectCypher.unsupportedWord? (String.ofList passed)
  | _ =>
      none

namespace Scanner

/-- Behind the end of input and behind what is not closed a sweep does not go on. -/
def goesOn : Except LexicalError Token → Bool
  | .ok token => !token.isEnd
  | .error failure => failure.cause == .unexpectedCharacter

/-- The unsupported word that an answer spells, if it is a name. -/
def unsupportedWord? : Except LexicalError Token → Option String
  | .ok token => token.unsupportedWord?
  | .error _ => none

/-- Behind an answer with which a sweep goes on less of the text is left. -/
theorem length_lt_of_goesOn
    {scanner behind : Scanner}
    {answer : Except LexicalError Token}
    (scanned : scanner.nextToken = (answer, behind))
    (more : goesOn answer = true) :
    behind.remaining.length < scanner.remaining.length := by
  obtain ⟨gap, passed, scans⟩ := exists_scans scanned
  have notEnd : isEndOfInput answer = false := by
    cases answer with
    | ok token =>
        simpa [goesOn, isEndOfInput] using more
    | error failure =>
        rfl
  have someChars := List.length_pos_iff.mpr (scans.progress notEnd)
  rw [scans.passes.remaining, List.length_append, List.length_append]
  omega

/--
Everything that one scanner answers with when it is asked again and again, up to the
end of input or to a string or a comment without an end.
-/
def sweep (scanner : Scanner) : List (Except LexicalError Token) :=
  match _ : scanner.nextToken with
  | (answer, behind) =>
      if _ : goesOn answer = true then
        answer :: behind.sweep
      else
        [answer]
termination_by scanner.remaining.length
decreasing_by exact length_lt_of_goesOn (by assumption) (by assumption)

/-- The first unsupported word in a sweep. -/
def firstSwept? (scanner : Scanner) : Option String :=
  scanner.sweep.findSome? unsupportedWord?

/-- A sweep goes on behind an answer, if there may be more. -/
theorem sweep_eq
    {scanner behind : Scanner}
    {answer : Except LexicalError Token}
    (scanned : scanner.nextToken = (answer, behind)) :
    scanner.sweep = answer :: if goesOn answer then behind.sweep else [] := by
  rw [sweep]
  split
  rename_i found reached same
  rw [scanned] at same
  cases same
  split <;> simp_all

/-- Behind the first finding in a text a sweep goes on, if there may be more. -/
theorem firstSwept?_of_munches
    {gap passed rest : List Char}
    {finding : Finding}
    (munches : Munches gap passed rest finding)
    (position : Position) :
    (running position (gap ++ (passed ++ rest))).firstSwept? =
      (finding.unsupportedWord? passed).or
        (if finding.goesOn then
          (running (position.after (gap ++ passed)) rest).firstSwept?
        else
          none) := by
  have scanned := @Munches.nextToken_eq (running position _) _ _ _ _ munches rfl
  have word :
      unsupportedWord? (finding.answer passed (position.after gap)) =
        finding.unsupportedWord? passed := by
    cases finding with
    | token kind =>
        cases kind <;> rfl
    | _ =>
        rfl
  have goesOn_eq :
      goesOn (finding.answer passed (position.after gap)) = finding.goesOn := by
    cases munches with
    | token longest closedString longestToken =>
        simpa [goesOn, Finding.answer, Token.isEnd, Finding.goesOn] using
          longestToken.spells.ne_endOfInput
    | _ =>
        rfl
  rw [firstSwept?, sweep_eq scanned, List.findSome?_cons]
  simp only [running, goesOn_eq, word]
  cases finding.unsupportedWord? passed with
  | some word =>
      rfl
  | none =>
      cases finding.goesOn <;> rfl

/-- The words in a text are the same wherever it begins. -/
theorem firstSwept?_running
    (text : List Char)
    (position other : Position) :
    (running position text).firstSwept? = (running other text).firstSwept? := by
  induction text using munch_induction generalizing position other with
  | found gap passed rest finding munches inductionHypothesis =>
      rw [firstSwept?_of_munches munches, firstSwept?_of_munches munches]
      cases finding with
      | finished =>
          rfl
      | _ =>
          congr 2
          exact inductionHypothesis (by simp) _ _

end Scanner

/-! ## The search that begins anew -/

/--
Where the tokens of a text end: either the search ends with them, as a sweep does, or
it goes on behind the unexpected character at which they end, as a sweep does too.
-/
theorem firstSwept?_of_stream
    (text : List Char)
    (position : Position) :
    (∀ failure,
        (TokenStream.ofChars position text).failure? = some failure →
        failure.resumeOffset? = none) ∧
      (Scanner.running position text).firstSwept? =
        (TokenStream.ofChars position text).tokens.findSome? Token.unsupportedWord? ∨
    ∃ before character rest place,
      text = before ++ character :: rest ∧
        (TokenStream.ofChars position text).failure? =
          some
            { cause := .unexpectedCharacter
              character := character
              position := position.after before } ∧
        (Scanner.running position text).firstSwept? =
          ((TokenStream.ofChars position text).tokens.findSome?
            Token.unsupportedWord?).or (Scanner.running place rest).firstSwept? := by
  induction text using munch_induction generalizing position with
  | found gap passed rest finding munches inductionHypothesis =>
      rw [Scanner.firstSwept?_of_munches munches,
        TokenStream.ofChars_of_munches munches]
      cases finding with
      | finished =>
          exact .inl ⟨by simp, rfl⟩
      | token kind =>
          have word :
              Token.unsupportedWord?
                  { kind := kind
                    text := String.ofList passed
                    position := position.after gap } =
                (Finding.token kind).unsupportedWord? passed := by
            cases kind <;> rfl
          simp only [TokenStream.cons, List.findSome?_cons, word, Finding.goesOn, if_true]
          rcases inductionHypothesis (by simp) (position.after (gap ++ passed)) with
            ⟨ends, same⟩ | ⟨before, character, behind, place, rfl, fails, same⟩
          · refine .inl ⟨ends, ?_⟩
            rw [same]
            cases (Finding.token kind).unsupportedWord? passed <;> rfl
          · refine .inr ⟨gap ++ passed ++ before, character, behind, place, ?_, ?_, ?_⟩
            · simp
            · rw [fails, ← Position.after_append]
            · rw [same]
              cases (Finding.token kind).unsupportedWord? passed <;> rfl
      | fault cause character =>
          cases munches with
          | stray longest closedComment closedString noToken =>
              exact .inr ⟨gap, character, rest, _, rfl, rfl, rfl⟩
          | openComment longest unclosed =>
              refine .inl ⟨?_, rfl⟩
              rintro failure ⟨⟩
              rfl
          | openString longest unclosed =>
              refine .inl ⟨?_, rfl⟩
              rintro failure ⟨⟩
              rfl

/-- The offset behind an unexpected character counts the text up to and with it. -/
theorem resumeOffset?_stray
    (before : List Char)
    (character : Char) :
    LexicalError.resumeOffset?
        { cause := .unexpectedCharacter
          character := character
          position := Position.start.after before } =
      some (byteLength (before ++ [character])) := by
  rw [LexicalError.resumeOffset?, if_pos rfl, Position.after_offset, byteLength_append]
  simp [Position.start]

/-- What is left behind an unexpected character is cut off behind exactly that character. -/
theorem dropBytes?_stray
    (before rest : List Char)
    (character : Char) :
    dropBytes? (byteLength (before ++ [character])) (before ++ character :: rest) =
      some rest := by
  simpa using dropBytes?_byteLength (before ++ [character]) rest

/-- A text can be cut behind the unexpected character at which its tokens end. -/
theorem exists_dropBytes?
    {text : List Char}
    {failure : LexicalError}
    {offset : Nat}
    (fails : (Scanner.ofChars text).stream.failure? = some failure)
    (resumes : failure.resumeOffset? = some offset) :
    ∃ before rest,
      text = before ++ failure.character :: rest ∧ dropBytes? offset text = some rest := by
  rcases firstSwept?_of_stream text .start with
    ⟨ends, -⟩ | ⟨before, character, rest, -, rfl, failsHere, -⟩
  · rw [ends failure fails] at resumes
    cases resumes
  · have same : (Scanner.ofChars (before ++ character :: rest)).stream.failure? = _ :=
      failsHere
    rw [fails, Option.some.injEq] at same
    subst same
    rw [resumeOffset?_stray, Option.some.injEq] at resumes
    exact ⟨before, rest, rfl, resumes ▸ dropBytes?_stray before rest character⟩

/-- The search goes on behind the tokens of a text, if there is where. -/
theorem findUnsupported?_eq
    (text : List Char) :
    findUnsupported? text =
      ((Scanner.ofChars text).stream.tokens.findSome? Token.unsupportedWord?).or
        ((resumeText? text (Scanner.ofChars text).stream.failure?).bind
          findUnsupported?) := by
  rw [findUnsupported?]
  cases found :
      (Scanner.ofChars text).stream.tokens.findSome? Token.unsupportedWord? with
  | some word =>
      simp only [Option.some_or]
  | none =>
      simp only [Option.none_or]
      split
      · rename_i rest resumes
        rw [resumes, Option.bind_some]
      · rename_i ends
        rw [ends, Option.bind_none]

/-- The search finds what a sweep over the whole text hears first. -/
theorem findUnsupported?_eq_firstSwept?
    (text : List Char)
    (position : Position) :
    findUnsupported? text = (Scanner.running position text).firstSwept? := by
  have sameStream :
      (Scanner.ofChars text).stream = TokenStream.ofChars .start text :=
    rfl
  rw [findUnsupported?_eq, sameStream, Scanner.firstSwept?_running text position .start]
  rcases firstSwept?_of_stream text .start with
    ⟨ends, same⟩ | ⟨before, character, rest, place, shape, fails, same⟩
  · have nowhere :
        resumeText? text (TokenStream.ofChars .start text).failure? = none := by
      cases fails : (TokenStream.ofChars .start text).failure? with
      | none =>
          rfl
      | some failure =>
          simp [resumeText?, ends failure fails]
    rw [same, nowhere]
    simp
  · have resumes :
        resumeText? text (TokenStream.ofChars .start text).failure? = some rest := by
      simp only [resumeText?, fails, bind, Option.bind_some, resumeOffset?_stray]
      rw [shape]
      exact dropBytes?_stray before rest character
    have shorter := resumeText?_shortens resumes
    rw [same, resumes, Option.bind_some, findUnsupported?_eq_firstSwept? rest place]
termination_by text.length
decreasing_by exact shorter

/--
The search as it goes on behind what is found first: layout counts nothing, a name
counts as a whole, and any other finding is passed.
-/
theorem findUnsupported?_of_munches
    {gap passed rest : List Char}
    {finding : Finding}
    (munches : Munches gap passed rest finding) :
    findUnsupported? (gap ++ (passed ++ rest)) =
      (finding.unsupportedWord? passed).or
        (if finding.goesOn then findUnsupported? rest else none) := by
  rw [findUnsupported?_eq_firstSwept? _ .start, Scanner.firstSwept?_of_munches munches,
    findUnsupported?_eq_firstSwept? rest (Position.start.after (gap ++ passed))]

/-! ## Refused texts -/

/-- The first unsupported name of tokens is the same wherever they stand. -/
theorem SameTokens.findSome?_unsupportedWord?
    {tokens others : List Token}
    (same : SameTokens others tokens) :
    others.findSome? Token.unsupportedWord? =
      tokens.findSome? Token.unsupportedWord? := by
  have unplaced :
      ∀ row : List Token,
        row.findSome? Token.unsupportedWord? =
          (row.map Token.unplaced).findSome? Token.unsupportedWord? := by
    intro row
    rw [List.findSome?_map]
    rfl
  rw [unplaced, same, ← unplaced]

/-- What is left of a text without the white space around it is searched alike. -/
theorem findUnsupported?_trim
    {text : String}
    {tokens : List Token}
    (tokenized : tokenize text = .ok tokens) :
    findUnsupported? (Text.trim text).toList =
      tokens.findSome? Token.unsupportedWord? := by
  obtain ⟨others, otherTokenized, same⟩ := tokenize_trim tokenized
  rw [findUnsupported?_of_tokenize otherTokenized, ← findSome?_unsupportedWord?,
    same.findSome?_unsupportedWord?]

/-- A name that is the word of an unsupported statement. -/
def Token.IsUnsupported (token : Token) : Prop :=
  token.kind = .identifier ∧
    ∃ word ∈ unsupportedKeywords, Text.sameIgnoringCase word token.text = true

theorem Token.unsupportedWord?_eq_none_iff
    {token : Token} :
    token.unsupportedWord? = none ↔ ¬ token.IsUnsupported := by
  unfold Token.unsupportedWord? Token.IsUnsupported
  by_cases isName : token.kind = .identifier
  · simp [isName, SelectCypher.unsupportedWord?_eq_none_iff]
  · simp [isName]

/-- A text with a name in it is more than white space. -/
theorem trim_ne_empty
    {text : String}
    {tokens : List Token}
    {token : Token}
    (tokenized : tokenize text = .ok tokens)
    (member : token ∈ tokens)
    (isName : token.kind = .identifier) :
    Text.trim text ≠ "" := by
  intro empty
  obtain ⟨others, otherTokenized, same⟩ := tokenize_trim tokenized
  rw [empty] at otherTokenized
  have nothing : tokenize "" = .ok [.endAt .start] :=
    tokenize_eq_ok_iff.mpr (.finished Layout.lead_nil)
  rw [nothing] at otherTokenized
  cases otherTokenized
  have kinds := same.kinds
  have listed : token.kind ∈ tokens.map Token.kind := List.mem_map_of_mem member
  rw [← kinds, isName] at listed
  simp [Token.endAt] at listed

/-- What the search for unsupported words in a text amounts to. -/
structure SearchedOnce (text : String) : Prop where
  /-- The search finds what one scanner, asked on and on, hears first. -/
  swept :
    findUnsupported? text.toList =
      (Scanner.ofText text).sweep.findSome? Scanner.unsupportedWord?
  /-- Wherever the search goes on, the text it is in ends a character there. -/
  cuts :
    ∀ part failure offset,
      (Scanner.ofChars part).stream.failure? = some failure →
      failure.resumeOffset? = some offset →
      ∃ before rest,
        part = before ++ failure.character :: rest ∧ dropBytes? offset part = some rest
  /-- Layout and strings count nothing, and a name counts as a whole. -/
  goesOn :
    ∀ gap passed rest finding,
      Munches gap passed rest finding →
      findUnsupported? (gap ++ (passed ++ rest)) =
        (finding.unsupportedWord? passed).or
          (if finding.goesOn then findUnsupported? rest else none)
  refused :
    ∀ tokens limits,
      tokenize text = .ok tokens →
      ((∃ word, screen text limits = .error (.unsupportedStatement word)) ↔
        limits.checkText (Text.trim text) = .ok () ∧
          ∃ token ∈ tokens, token.IsUnsupported)
  admitted :
    ∀ tokens limits,
      tokenize text = .ok tokens →
      (screen text limits = .ok () ↔
        Text.trim text ≠ "" ∧
          limits.checkText (Text.trim text) = .ok () ∧
          ∀ token ∈ tokens, ¬ token.IsUnsupported)

/--
The search for unsupported words, which begins anew behind every unexpected character,
is one sweep over the text: it never fails to cut the text where it goes on, it finds
the first name that is such a word, and a text that is tokenized and not too long is
refused exactly if one of its names is.
-/
theorem findUnsupported?_searchedOnce (text : String) : SearchedOnce text where
  swept := findUnsupported?_eq_firstSwept? text.toList .start
  cuts := fun part failure offset => exists_dropBytes?
  goesOn := fun gap passed rest finding => findUnsupported?_of_munches
  refused := by
    intro tokens limits tokenized
    rw [screen_eq, findUnsupported?_trim tokenized]
    constructor
    · rintro ⟨word, refusedHere⟩
      split at refusedHere
      · cases refusedHere
      · split at refusedHere
        · cases refusedHere
        · rename_i fits
          split at refusedHere
          · rename_i found
            obtain ⟨token, member, spelled⟩ := List.exists_of_findSome?_eq_some found
            refine ⟨fits, token, member, ?_⟩
            by_contra supported
            rw [Token.unsupportedWord?_eq_none_iff.mpr supported] at spelled
            cases spelled
          · cases refusedHere
    · rintro ⟨fits, token, member, unsupported⟩
      have someText := trim_ne_empty tokenized member unsupported.1
      have found : tokens.findSome? Token.unsupportedWord? ≠ none := by
        intro nothing
        have supported := List.findSome?_eq_none_iff.mp nothing token member
        exact Token.unsupportedWord?_eq_none_iff.mp supported unsupported
      obtain ⟨word, found⟩ := Option.ne_none_iff_exists'.mp found
      refine ⟨word, ?_⟩
      rw [if_neg (by simpa using someText), fits, found]
  admitted := by
    intro tokens limits tokenized
    have supported :
        tokens.findSome? Token.unsupportedWord? = none ↔
          ∀ token ∈ tokens, ¬ token.IsUnsupported := by
      simp only [List.findSome?_eq_none_iff, Token.unsupportedWord?_eq_none_iff]
    rw [screen_eq, findUnsupported?_trim tokenized, ← supported]
    by_cases empty : Text.trim text = ""
    · simp [empty]
    · cases limits.checkText (Text.trim text) <;>
        cases tokens.findSome? Token.unsupportedWord? <;>
          simp [empty]

/--
Names alone do not decide what is refused: a blank text is refused without one, and
a text with one may be refused for its length.
-/
theorem not_refused_iff_isUnsupported :
    (¬ ∀ text tokens,
      tokenize text = .ok tokens →
      ((∃ refusal, screen text = .error refusal) ↔
        ∃ token ∈ tokens, token.IsUnsupported)) ∧
      ¬ ∀ text tokens limits,
        tokenize text = .ok tokens →
        ((∃ word, screen text limits = .error (.unsupportedStatement word)) ↔
          ∃ token ∈ tokens, token.IsUnsupported) := by
  constructor
  · intro always
    have tokenized : tokenize "" = .ok [.endAt .start] := by
      decide +kernel
    have refused : screen "" = .error .empty := by
      decide +kernel
    obtain ⟨token, member, isName, -⟩ :=
      (always "" _ tokenized).mp ⟨.empty, refused⟩
    rw [List.mem_singleton.mp member] at isName
    cases isName
  · intro always
    let name : Token :=
      { kind := .identifier, text := "drop", position := .start }
    have tokenized :
        tokenize "drop" =
          .ok [name, .endAt { offset := 4, line := 1, column := 5 }] := by
      decide +kernel
    have unsupported : name.IsUnsupported :=
      ⟨rfl, "DROP", by decide, by decide⟩
    have tooLong :
        screen "drop" { maxLength? := some 3 } = .error (.query (.tooLong 4 3)) := by
      decide +kernel
    obtain ⟨word, refused⟩ :=
      (always "drop" _ { maxLength? := some 3 } tokenized).mpr
        ⟨name, List.mem_cons_self, unsupported⟩
    rw [tooLong] at refused
    cases refused

/-- Characters of several bytes, a string, a comment and a longer name before the word. -/
example :
    findUnsupported? "é; 'DROP' 東/* drop */dropped  Drop 'x".toList =
      some "DROP" := by
  decide +kernel

end SelectCypher
