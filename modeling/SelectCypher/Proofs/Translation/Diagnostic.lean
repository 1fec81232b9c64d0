import SelectCypher.Proofs.Reader.Ending
import SelectCypher.Proofs.Source.Position
import SelectCypher.Proofs.Token.Form
import SelectCypher.Proofs.Translation.Agreement

namespace SelectCypher

open Grammar

/-!
# Errors point at what they name

Every token of a text, and its lexical error, stands in the text where its position
says.  An error of a query is about one of them, so it points into the text at what it
names, and never at a place that no token has.
-/

/-! ## Places of tokens -/

/-- A position behind which some characters stand in a text. -/
def Position.PointsAt
    (position : Position)
    (named text : List Char) :
    Prop :=
  ∃ front behind, text = front ++ (named ++ behind) ∧ position.Counts front

theorem Position.PointsAt.marks
    {position : Position}
    {named text : List Char}
    (pointsAt : position.PointsAt named text) :
    position.Marks text := by
  obtain ⟨front, behind, shape, counts⟩ := pointsAt
  exact ⟨front, named ++ behind, shape, counts⟩

/-- A token that stands in a text: only the end of input stands at its end, without text. -/
structure Token.StandsIn
    (token : Token)
    (text : List Char) :
    Prop where
  pointsAt : token.position.PointsAt token.text.toList text
  atEnd : token.kind = .endOfInput ↔ token.position.offset = byteLength text
  noText : token.kind = .endOfInput ↔ token.text = ""
  opening : token.kind = .leftParen → token.text.toList = ['(']

/-- A lexical error that stands in a text, at what opens the string or the comment. -/
structure LexicalError.StandsIn
    (error : LexicalError)
    (text : List Char) :
    Prop where
  pointsAt : error.position.PointsAt [error.character] text
  string : error.cause = .unterminatedString → error.character = '\''
  comment : error.cause = .unterminatedComment → error.character = '/'

/-- Everything in a token stream stands in a text. -/
structure TokenStream.StandsIn
    (stream : TokenStream)
    (text : List Char) :
    Prop where
  tokens : ∀ token ∈ stream.tokens, token.StandsIn text
  failure : ∀ error ∈ stream.failure?, error.StandsIn text

/-- A position behind the front of a text points at what comes next. -/
theorem Position.pointsAt_after
    (front named behind : List Char) :
    (start.after front).PointsAt named (front ++ (named ++ behind)) :=
  ⟨front, behind, rfl, counts_after front⟩

/-- The end of input that is found in a text stands at its end. -/
theorem Munches.endAt_standsIn
    {front gap passed rest : List Char}
    (munches : Munches gap passed rest .finished) :
    (Token.endAt (Position.start.after (front ++ gap))).StandsIn
      (front ++ gap ++ (passed ++ rest)) := by
  cases munches with
  | finished longest =>
      have counts := Position.counts_after (front ++ gap)
      refine ⟨Position.pointsAt_after _ _ [], iff_of_true rfl ?_, iff_of_true rfl rfl, ?_⟩
      · rw [List.append_nil, List.append_nil]
        exact counts.offset
      · rintro ⟨⟩

/-- Any other token that is found in a text stands in front of its end. -/
theorem Munches.token_standsIn
    {front gap passed rest : List Char}
    {kind : TokenKind}
    (munches : Munches gap passed rest (.token kind)) :
    Token.StandsIn
      { kind := kind
        text := String.ofList passed
        position := Position.start.after (front ++ gap) }
      (front ++ gap ++ (passed ++ rest)) := by
  have counts := Position.counts_after (front ++ gap)
  obtain ⟨first, later, shape⟩ :=
    List.exists_cons_of_ne_nil (munches.passed_ne_nil (by simp))
  have someBytes := first.utf8Size_pos
  cases munches with
  | token longest closedString longestToken =>
      have spells := longestToken.spells
      have notEnd := spells.ne_endOfInput
      refine ⟨?_, iff_of_false notEnd ?_, iff_of_false notEnd spells.text_ne_empty, ?_⟩
      · rw [String.toList_ofList]
        exact Position.pointsAt_after _ _ rest
      · rw [counts.offset, byteLength_append (front ++ gap), shape, List.cons_append,
          byteLength_cons]
        omega
      · rintro rfl
        rw [String.toList_ofList]
        exact spells.eq_of_leftParen

/-- A lexical error that is found in a text stands where it was found. -/
theorem Munches.fault_standsIn
    {front gap passed rest : List Char}
    {cause : LexicalCause}
    {character : Char}
    (munches : Munches gap passed rest (.fault cause character)) :
    LexicalError.StandsIn
      { cause := cause
        character := character
        position := Position.start.after (front ++ gap) }
      (front ++ gap ++ (passed ++ rest)) := by
  have named : ∃ later, passed = character :: later := by
    cases munches with
    | openComment longest unclosed =>
        obtain ⟨content, shape, -⟩ := unclosed
        exact ⟨_, shape⟩
    | openString longest unclosed =>
        obtain ⟨later, shape, -⟩ := unclosed
        exact ⟨later, shape⟩
    | stray =>
        exact ⟨[], rfl⟩
  obtain ⟨later, rfl⟩ := named
  refine ⟨Position.pointsAt_after _ [character] (later ++ rest), ?_, ?_⟩
  · rintro rfl
    cases munches
    rfl
  · rintro rfl
    cases munches
    rfl

theorem TokenStream.ofChars_standsIn
    (front text : List Char) :
    (ofChars (Position.start.after front) text).StandsIn (front ++ text) := by
  induction text using munch_induction generalizing front with
  | found gap passed rest finding munches inductionHypothesis =>
      rw [ofChars_of_munches munches, ← Position.after_append,
        ← Position.after_append, ← List.append_assoc front gap (passed ++ rest)]
      cases finding with
      | finished =>
          refine ⟨?_, by simp⟩
          intro token member
          rw [List.mem_singleton.mp member]
          exact munches.endAt_standsIn
      | token kind =>
          have behind := inductionHypothesis (by simp) (front ++ (gap ++ passed))
          have shape :
              front ++ (gap ++ passed) ++ rest = front ++ gap ++ (passed ++ rest) := by
            simp only [List.append_assoc]
          rw [shape] at behind
          refine ⟨?_, behind.failure⟩
          intro token member
          rcases List.mem_cons.mp member with isFirst | later
          · rw [isFirst]
            exact munches.token_standsIn
          · exact behind.tokens token later
      | fault cause character =>
          refine ⟨by simp, ?_⟩
          rintro error ⟨⟩
          exact munches.fault_standsIn

/-- Everything in the token stream of a text stands in the text. -/
theorem TokenStream.ofText_standsIn (text : String) :
    (ofText text).StandsIn text.toList :=
  ofChars_standsIn [] text.toList

/-! ## What an error is about -/

/-- An error about something in a token stream, or about the length of a text. -/
inductive TokenStream.Blames (stream : TokenStream) : QueryError → Prop
  | lexical {error : LexicalError} :
      error ∈ stream.failure? →
      Blames stream (.lexical error)
  | grammar
      {expected : List TokenKind}
      {token : Token} :
      token ∈ stream.tokens →
      Blames stream (.grammar (.ofToken expected token))
  | tooDeep
      {token : Token}
      {limit : Nat} :
      token ∈ stream.tokens →
      token.kind = .leftParen →
      Blames stream (.tooDeep token.position limit)
  | tooLong {length limit : Nat} :
      Blames stream (.tooLong length limit)

/-- A length limit is checked with one error only. -/
theorem Limits.exists_tooLong
    {limits : Limits}
    {text : String}
    {failure : QueryError}
    (fails : limits.checkText text = .error failure) :
    ∃ length limit, failure = .tooLong length limit := by
  unfold checkText at fails
  split at fails
  · cases fails
  · unfold checkLength at fails
    split at fails
    · cases fails
    · split at fails
      · cases fails
        exact ⟨_, _, rfl⟩
      · cases fails

/-- An error on the way along the tokens of a stream is about one of them. -/
theorem TokenStream.blames_of_walk
    {stream : TokenStream}
    {place : Place}
    {maxDepth : Nat}
    {failure : QueryError}
    (fails : place.walk maxDepth stream.tokens = .error failure) :
    stream.Blames failure := by
  obtain ⟨before, token, behind, middle, shape, -, stepFails⟩ :=
    Place.walk_eq_error fails
  have member : token ∈ stream.tokens := by
    rw [shape]
    exact List.mem_append_right before List.mem_cons_self
  rcases Place.step_eq_error stepFails with ⟨-, rfl⟩ | ⟨-, isOpening, -, rfl⟩
  · exact .grammar member
  · exact .tooDeep member isOpening

/-- An error of a text is about its length or about something in its token stream. -/
theorem Query.blames_of_ofText
    {text : String}
    {limits : Limits}
    {failure : QueryError}
    (fails : Query.ofText text limits = .error failure) :
    (TokenStream.ofText text).Blames failure := by
  unfold Query.ofText at fails
  cases checked : limits.checkText text with
  | error refusal =>
      rw [checked] at fails
      cases fails
      obtain ⟨length, limit, rfl⟩ := Limits.exists_tooLong checked
      exact .tooLong
  | ok fits =>
      rw [checked] at fails
      have verdict :=
        verdict_of_ofStream (TokenStream.ofText_closed text) fails
      rcases Place.verdict_eq_error_iff.mp verdict with
        walkFails | ⟨reached, error, -, ends, rfl⟩
      · exact TokenStream.blames_of_walk walkFails
      · exact .lexical ends

/-- A query that is not translated for an error fails with it, but for its length. -/
theorem blames_of_translate
    {text : String}
    {limits : Limits}
    {failure : QueryError}
    (fails : translate text limits = .error (.query failure)) :
    (TokenStream.ofText (Text.trim text)).Blames failure := by
  -- The text that is screened, trimmed once more, is the one that is read.
  rw [translate, screen_eq, Text.trim_trim] at fails
  split at fails
  · cases fails
  · cases checked : limits.checkText (Text.trim text) with
    | error refusal =>
        rw [checked] at fails
        cases fails
        obtain ⟨length, limit, rfl⟩ := Limits.exists_tooLong checked
        exact .tooLong
    | ok fits =>
        rw [checked] at fails
        cases searched : findUnsupported? (Text.trim text).toList with
        | some word =>
            rw [searched] at fails
            cases fails
        | none =>
            rw [searched] at fails
            cases read : Query.ofText (Text.trim text) limits with
            | error cause =>
                rw [read] at fails
                cases fails
                exact Query.blames_of_ofText read
            | ok query =>
                rw [read] at fails
                cases fails

/-! ## Where errors point -/

/-- An error that points at what it names in a text; a length stands nowhere in it. -/
inductive QueryError.PointsAtNamed (text : List Char) : QueryError → Prop
  | lexical {error : LexicalError} :
      error.StandsIn text →
      PointsAtNamed text (.lexical error)
  | grammar {error : SyntaxError} :
      error.position.PointsAt error.foundText.toList text →
      (error.found = .endOfInput ↔ error.position.offset = byteLength text) →
      (error.found = .endOfInput ↔ error.foundText = "") →
      PointsAtNamed text (.grammar error)
  | tooDeep
      {position : Position}
      {limit : Nat} :
      position.PointsAt ['('] text →
      PointsAtNamed text (.tooDeep position limit)
  | tooLong {length limit : Nat} :
      PointsAtNamed text (.tooLong length limit)

/-- An error about something that stands in a text points at it. -/
theorem TokenStream.Blames.pointsAtNamed
    {stream : TokenStream}
    {text : List Char}
    {failure : QueryError}
    (blames : stream.Blames failure)
    (stands : stream.StandsIn text) :
    failure.PointsAtNamed text := by
  cases blames with
  | lexical ends =>
      exact .lexical (stands.failure _ ends)
  | grammar member =>
      have token := stands.tokens _ member
      exact .grammar token.pointsAt token.atEnd token.noText
  | tooDeep member isOpening =>
      have token := stands.tokens _ member
      exact .tooDeep (token.opening isOpening ▸ token.pointsAt)
  | tooLong =>
      exact .tooLong

theorem QueryError.PointsAtNamed.marks
    {text : List Char}
    {failure : QueryError}
    {position : Position}
    (points : failure.PointsAtNamed text)
    (placed : failure.position? = some position) :
    position.Marks text := by
  cases points with
  | lexical stands =>
      cases placed
      exact stands.pointsAt.marks
  | grammar pointsAt =>
      cases placed
      exact pointsAt.marks
  | tooDeep pointsAt =>
      cases placed
      exact pointsAt.marks
  | tooLong =>
      cases placed

/-- An error that points into a text, at a place whose line and column have 32 bits. -/
structure QueryError.Pinpoints
    (failure : QueryError)
    (text : String) :
    Prop where
  named : failure.PointsAtNamed text.toList
  /-- The place is between two characters, and counts all that stand before it. -/
  marks : ∀ position ∈ failure.position?, position.Marks text.toList
  inRange :
    ∀ position ∈ failure.position?,
      position.offset ≤ byteLength text.toList ∧ position.line < UInt32.size ∧
        position.column < UInt32.size

theorem TokenStream.Blames.pinpoints
    {text : String}
    {failure : QueryError}
    (blames : (TokenStream.ofText text).Blames failure)
    (short : text.toList.length < UInt32.size - 1) :
    failure.Pinpoints text := by
  have named := blames.pointsAtNamed (ofText_standsIn text)
  refine ⟨named, fun position placed => named.marks placed, ?_⟩
  intro position placed
  have marks := named.marks placed
  exact ⟨marks.bounds.1, marks.lt_size short⟩

/-- What the errors of a text are good for, within limits. -/
structure Diagnosed
    (text : String)
    (limits : Limits) :
    Prop where
  reading :
    ∀ failure,
      Query.ofText text limits = .error failure →
      failure.Pinpoints text
  /-- Errors of a translation point into the text without the white space around it. -/
  translation :
    ∀ failure,
      translate text limits = .error (.query failure) →
      failure.Pinpoints (Text.trim text)
  /-- A reader never starts without a token of the text. -/
  firstToken :
    (TokenStream.ofText text).tokens = [] →
    (TokenStream.ofText text).failure? ≠ none
  /-- Nothing is asked for behind the end of input: no answer would make a difference. -/
  nothingBehindEnd :
    (TokenStream.ofText text).failure? = none →
    ∀ more failure?,
      Query.ofStream
          { tokens := (TokenStream.ofText text).tokens ++ more, failure? := failure? }
          limits.maxDepth =
        Query.ofStream (.ofText text) limits.maxDepth

/--
Every error of a text points into it at what it names: a syntax error at the token that
was found, or at the end of the text if that was the end of input, an error of nesting
at a parenthesis, a lexical error at its character.  A reader asks for nothing behind
the end of input, so no error is about a token that the text does not have.
-/
theorem Query.ofText_diagnosed
    {text : String}
    (limits : Limits)
    (short : text.toList.length < UInt32.size - 1) :
    Diagnosed text limits where
  reading := by
    intro failure fails
    exact (blames_of_ofText fails).pinpoints short
  translation := by
    intro failure fails
    have shorter : (Text.trim text).toList.length < UInt32.size - 1 := by
      obtain ⟨leading, trailing, shape, -, -⟩ := Text.exists_trim text
      rw [shape, List.length_append, List.length_append] at short
      omega
    exact (blames_of_translate fails).pinpoints shorter
  firstToken := by
    intro nothing complete
    obtain ⟨body, last, shape, -⟩ := (TokenStream.ofText_closed text).ends complete
    rw [nothing] at shape
    simp at shape
  nothingBehindEnd := by
    intro complete more failure?
    obtain ⟨body, last, shape, isEnd⟩ := (TokenStream.ofText_closed text).ends complete
    have longer :
        (TokenStream.ofText text).tokens ++ more = body ++ last :: more := by
      rw [shape, List.append_assoc]
      rfl
    exact ofStream_eq_of_agree isEnd shape longer limits.maxDepth

/-- A letter that begins no name, behind white space which translation drops. -/
theorem Query.ofText_diagnosed_stray :
    let text := " select é"
    let stray (offset column : Nat) : QueryError :=
      .lexical
        { cause := .unexpectedCharacter
          character := 'é'
          position := { offset := offset, line := 1, column := column } }
    text.toList.length < UInt32.size - 1 ∧
      Query.ofText text translationLimits = .error (stray 8 9) ∧
      translate text = .error (.query (stray 7 8)) ∧
      Diagnosed text translationLimits := by
  intro text stray
  have short : text.toList.length < UInt32.size - 1 := by
    decide +kernel
  have reading : Query.ofText text translationLimits = .error (stray 8 9) := by
    decide +kernel
  have translation : translate text = .error (.query (stray 7 8)) := by
    decide +kernel
  exact ⟨short, reading, translation, ofText_diagnosed translationLimits short⟩

end SelectCypher
