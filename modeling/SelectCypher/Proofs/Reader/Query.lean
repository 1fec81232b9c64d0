import SelectCypher.Proofs.Reader.Condition
import SelectCypher.Reader.Query

namespace SelectCypher

open Grammar

/-!
# Reading queries is sound

A query that is read is the sentence that the whole stream spells, and a stream
that is not read fails with the verdict on it.
-/

namespace Reader

/-- The rest of a list of names, behind names that have been found. -/
theorem moreNames_follows
    {origin reader : Reader}
    {found : List Identifier}
    {progress : reader.pending < origin.pending}
    {before : List Token}
    (closed : reader.stream.Closed)
    (lists : Lists before found.reverse) :
    Follows reader .behindName (fun _ => .behindName)
      (fun passed names after =>
        Lists (before ++ passed) names ∧ after.current.kind ≠ .comma ∧
          after.depth = reader.depth)
      (moreNames origin found reader progress) := by
  induction found, reader, progress using Reader.moreNames.induct generalizing
    before with
  | case1 found reader progress separated inductionHypothesis =>
      rw [moreNames, dif_pos separated]
      have steps :
          Place.behindName.step reader.maxDepth reader.current = .ok .name := by
        rw [Place.step_eq_ok_iff, separated]
        exact ⟨rfl, by simp⟩
      refine Follows.bind closed (Follows.advance closed steps) ?_
      rintro comma - closedName - ⟨rfl, -, commaDepth⟩
      refine Follows.bind closedName
        (identifier_follows closedName rfl (Place.blocked_of_only rfl)) ?_
      rintro name - closedBehind - ⟨rfl, named, isName, nameDepth⟩
      have longer :
          Lists (before ++ [reader.current, comma.after.current])
            (name.value :: found).reverse := by
        rw [List.reverse_cons, named]
        exact .more lists separated isName
      have rest := inductionHypothesis comma name closedBehind longer
      simpa [nameDepth, commaDepth] using rest
  | case2 found reader progress notSeparated =>
      rw [moreNames, dif_neg notSeparated]
      exact Follows.ok (.refl reader) rfl ⟨by simpa using lists, notSeparated, rfl⟩

/-- The place behind a selection. -/
def behindSelection : Selection → Place
  | .everything =>
      .behindEverything
  | .columns _ =>
      .behindName

/-- What may follow a selection is expected behind it. -/
theorem selectionFollow_eq
    (selection : Selection) :
    selectionFollow selection = (behindSelection selection).expected := by
  cases selection <;> rfl

theorem selection_follows
    {reader : Reader}
    (closed : reader.stream.Closed) :
    Follows reader .selection behindSelection
      (fun passed selection after =>
        Selects passed selection ∧
          (selection ≠ .everything → after.current.kind ≠ .comma) ∧
          after.depth = reader.depth)
      reader.selection := by
  unfold Reader.selection
  split
  · rename_i asterisk
    have steps :
        Place.selection.step reader.maxDepth reader.current =
          .ok .behindEverything := by
      rw [Place.step_eq_ok_iff, asterisk]
      exact ⟨rfl, by simp⟩
    refine Follows.bind closed (Follows.advance closed steps) ?_
    rintro passed - - - ⟨rfl, -, depth⟩
    exact Follows.ok (.refl _) rfl
      ⟨.everything asterisk, fun named => absurd rfl named, depth⟩
  · rename_i notAsterisk
    have others :
        reader.current.kind ≠ .identifier →
        Place.selection.next? reader.current.kind = none ∧
          [.asterisk, .identifier] = Place.selection.expected := by
      intro notName
      rw [Place.next?_eq_none_iff]
      exact ⟨by simp [Place.expected, Place.exits, notAsterisk, notName], rfl⟩
    refine Follows.bind closed (identifier_follows closed rfl others) ?_
    rintro first - closedBehind - ⟨rfl, named, isName, firstDepth⟩
    have lists : Lists [reader.current] [first.value].reverse := by
      rw [named]
      exact .one isName
    refine Follows.bind closedBehind (moreNames_follows closedBehind lists) ?_
    rintro names passed - - ⟨lists, noComma, namesDepth⟩
    refine Follows.ok (.refl _) rfl ⟨?_, fun _ => noComma, ?_⟩
    · simpa [Parsed.map] using Selects.columns lists
    · exact namesDepth.trans firstDepth

/-- The place behind a query without a condition, or with one. -/
def behindFilter : Option Condition → Place
  | none =>
      .behindTable
  | some _ =>
      .behindOperand 0

theorem queryFollow_eq
    (query : Query) :
    queryFollow query = (behindFilter query.filter?).expected := by
  unfold queryFollow
  cases query.filter? <;> rfl

/-- The word of a filter leads to its condition. -/
theorem step_of_filter
    {reader : Reader}
    (filtered : reader.current.kind = .keyword .whereWord) :
    Place.behindTable.step reader.maxDepth reader.current = .ok (.operand 0) := by
  rw [Place.step_eq_ok_iff, filtered]
  exact ⟨rfl, by simp⟩

theorem filter?_follows
    {origin reader : Reader}
    {progress : reader.pending < origin.pending}
    (closed : reader.stream.Closed)
    (outside : reader.depth = 0) :
    Follows reader .behindTable behindFilter
      (fun passed condition? after =>
        Filters passed condition? ∧
          (after.current.kind ≠ .endOfInput →
            (behindFilter condition?).next? after.current.kind = none))
      (filter? origin reader progress) := by
  unfold Reader.filter?
  split
  · rename_i filtered
    refine Follows.bind closed (Follows.advance closed (step_of_filter filtered)) ?_
    rintro passed - closedInside - ⟨rfl, -, passedDepth⟩
    have inside := condition_follows 0 closedInside
    rw [passedDepth, outside] at inside
    refine Follows.bind closedInside inside ?_
    rintro condition passed - - ⟨forms, -, leaves⟩
    refine Follows.ok (.refl _) rfl ⟨?_, ?_⟩
    · simpa [Parsed.map, Parsed.behind] using Filters.present filtered forms
    · intro notEnd
      obtain ⟨notAnd, notOr⟩ := leaves.not_connective
      rw [Place.next?_eq_none_iff]
      simpa [behindFilter, Parsed.map, Parsed.behind, Place.expected,
        Place.exits] using ⟨notAnd, notOr, notEnd⟩
  · rename_i notFiltered
    refine Follows.ok (.refl _) rfl ⟨.absent, ?_⟩
    intro notEnd
    rw [Place.next?_eq_none_iff]
    simp [behindFilter, Place.expected, Place.exits, notFiltered, notEnd]

/-- Behind a selection only `FROM` can come, once no name follows. -/
theorem blocked_behindSelection
    {selection : Selection}
    {kind : TokenKind}
    (noComma : selection ≠ .everything → kind ≠ .comma)
    (notSource : kind ≠ .keyword .fromWord) :
    (behindSelection selection).next? kind = none := by
  rw [Place.next?_eq_none_iff]
  cases selection with
  | everything =>
      simp [behindSelection, Place.expected, Place.exits, notSource]
  | columns names =>
      simp [behindSelection, Place.expected, Place.exits, notSource,
        noComma (by simp)]

/-- The word in front of the table is read behind a whole selection. -/
theorem source_follows
    {reader : Reader}
    {selection : Selection}
    (closed : reader.stream.Closed)
    (noComma : selection ≠ .everything → reader.current.kind ≠ .comma) :
    Follows reader (behindSelection selection) (fun _ => .source)
      (fun passed token after =>
        passed = [reader.current] ∧ token = reader.current ∧
          token.kind = .keyword .fromWord ∧ after.depth = reader.depth)
      (reader.expect (.keyword .fromWord) (selectionFollow selection)) := by
  have leads :
      (behindSelection selection).next? (.keyword .fromWord) = some .source := by
    cases selection <;> rfl
  apply Follows.expect closed leads (by simp)
  intro notSource
  exact ⟨blocked_behindSelection noComma notSource, selectionFollow_eq selection⟩

/-- A statement is read that the end of input makes a sentence. -/
theorem statement_follows
    {reader : Reader}
    (closed : reader.stream.Closed)
    (outside : reader.depth = 0) :
    Follows reader .opening (fun query => behindFilter query.filter?)
      (fun passed query after =>
        (∀ last : Token,
          last.kind = .endOfInput →
          Sentence (passed ++ [last]) query) ∧
          (after.current.kind ≠ .endOfInput →
            (behindFilter query.filter?).next? after.current.kind = none))
      reader.statement := by
  unfold Reader.statement
  refine Follows.bind closed
    (Follows.expect closed rfl (by simp) (Place.blocked_of_only rfl)) ?_
  rintro opening - closedOpening - ⟨rfl, sameOpening, isSelect, openingDepth⟩
  refine Follows.bind closedOpening (selection_follows closedOpening) ?_
  rintro selection selected closedSelection -
    ⟨selectedForms, noComma, selectionDepth⟩
  refine Follows.bind closedSelection (source_follows closedSelection noComma) ?_
  rintro source - closedSource - ⟨rfl, sameSource, isSource, sourceDepth⟩
  refine Follows.bind closedSource
    (identifier_follows closedSource rfl (Place.blocked_of_only rfl)) ?_
  rintro table - closedTable - ⟨rfl, tableName, isTable, tableDepth⟩
  have tableOutside : table.after.depth = 0 := by
    rw [tableDepth, sourceDepth, selectionDepth, openingDepth, outside]
  refine Follows.bind closedTable (filter?_follows closedTable tableOutside) ?_
  rintro filter filtered - - ⟨filterForms, stops⟩
  refine Follows.ok (.refl _) rfl ⟨?_, stops⟩
  intro last isEnd
  have sentence :=
    Sentence.query (sameOpening ▸ isSelect) selectedForms
      (sameSource ▸ isSource) isTable filterForms isEnd
  simpa [Parsed.map, tableName] using sentence

/-- A query is read that the stream spells, or the reader fails with its verdict. -/
theorem query_follows
    {reader : Reader}
    (closed : reader.stream.Closed)
    (outside : reader.depth = 0) :
    match reader.query with
    | .ok query =>
        Sentence reader.tokens query ∧ reader.failure? = none ∧
          Place.opening.verdict reader.maxDepth reader.stream = .ok .closing
    | .error failure =>
        Place.opening.verdict reader.maxDepth reader.stream = .error failure := by
  have reading := statement_follows closed outside
  unfold Reader.query
  cases outcome : reader.statement with
  | error failure =>
      rw [outcome] at reading
      exact reading
  | ok read =>
      rw [outcome] at reading
      obtain ⟨passed, passes, walked, sentence, stops⟩ := reading
      have closedBehind := passes.closed closed
      simp only [bind, Except.bind]
      split
      · rename_i query finished
        split at finished
        · rename_i isEnd
          cases finished
          -- Nothing stands behind the end of input, so it ends the row.
          obtain ⟨nothing, complete⟩ :=
            closedBehind.nothingBehindEnd
              (show read.after.stream.tokens =
                [] ++ read.after.current :: read.after.upcoming from rfl)
              isEnd
          have whole : reader.tokens = passed ++ [read.after.current] := by
            rw [passes.tokens, Reader.tokens, nothing]
          have noFailure : reader.failure? = none :=
            passes.failure?.symm.trans complete
          refine ⟨whole ▸ sentence _ isEnd, noFailure, ?_⟩
          have ends :
              (behindFilter read.value.filter?).next? .endOfInput =
                some .closing := by
            cases read.value.filter? <;> rfl
          simp [Place.verdict, stream, whole, Place.walk_append, walked,
            noFailure, Place.step, isEnd, ends, Except.bind]
        · cases finished
      · rename_i failure failed
        split at failed
        · cases failed
        · rename_i notEnd
          cases failed
          have blocked := stops notEnd
          rw [passes.verdict_eq walked]
          simp [Place.verdict, stream, Reader.tokens, Place.step, blocked,
            Reader.unexpected, queryFollow_eq, Except.bind]

/-- A reader that starts sees the whole stream, outside all parentheses. -/
theorem start_sees
    {stream : TokenStream}
    {maxDepth : Nat}
    {reader : Reader}
    (closed : stream.Closed)
    (starts : Reader.start stream maxDepth = .ok reader) :
    reader.stream = stream ∧ reader.depth = 0 ∧ reader.maxDepth = maxDepth := by
  rcases stream with ⟨tokens, failure?⟩
  cases tokens with
  | cons token rest =>
      simp only [Reader.start, Except.ok.injEq] at starts
      subst starts
      exact ⟨rfl, rfl, rfl⟩
  | nil =>
      cases failure? with
      | none =>
          obtain ⟨body, last, shape, -⟩ := closed.ends rfl
          simp at shape
      | some failure =>
          simp [Reader.start] at starts

/-- A reader that does not start has no token before a lexical error. -/
theorem verdict_of_start
    {stream : TokenStream}
    {maxDepth : Nat}
    {failure : QueryError}
    (fails : Reader.start stream maxDepth = .error failure) :
    Place.opening.verdict maxDepth stream = .error failure := by
  rcases stream with ⟨tokens, failure?⟩
  cases tokens with
  | cons token rest =>
      simp [Reader.start] at fails
  | nil =>
      cases failure? with
      | none =>
          simp [Reader.start] at fails
      | some lexical =>
          simp only [Reader.start, Except.error.injEq] at fails
          subst fails
          rfl

end Reader

namespace Query

/-- Reading a closed stream: its sentence, or the verdict on it. -/
theorem ofStream_follows
    {stream : TokenStream}
    (maxDepth : Nat)
    (closed : stream.Closed) :
    match Query.ofStream stream maxDepth with
    | .ok query =>
        Sentence stream.tokens query ∧ stream.failure? = none ∧
          Place.opening.verdict maxDepth stream = .ok .closing
    | .error failure =>
        Place.opening.verdict maxDepth stream = .error failure := by
  unfold Query.ofStream
  cases started : Reader.start stream maxDepth with
  | error failure =>
      exact Reader.verdict_of_start started
  | ok reader =>
      obtain ⟨rfl, outside, rfl⟩ := Reader.start_sees closed started
      exact Reader.query_follows closed outside

/-- What a stream is read as is the sentence it spells, nested within the limit. -/
theorem sentence_of_ofStream
    {stream : TokenStream}
    {maxDepth : Nat}
    {query : Query}
    (closed : stream.Closed)
    (read : Query.ofStream stream maxDepth = .ok query) :
    Sentence stream.tokens query ∧ stream.failure? = none ∧
      Place.opening.verdict maxDepth stream = .ok .closing := by
  have reading := ofStream_follows maxDepth closed
  rw [read] at reading
  exact reading

/-- A stream that is not read fails with the verdict on it. -/
theorem verdict_of_ofStream
    {stream : TokenStream}
    {maxDepth : Nat}
    {failure : QueryError}
    (closed : stream.Closed)
    (fails : Query.ofStream stream maxDepth = .error failure) :
    Place.opening.verdict maxDepth stream = .error failure := by
  have reading := ofStream_follows maxDepth closed
  rw [fails] at reading
  exact reading

end Query

end SelectCypher
