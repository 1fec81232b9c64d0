import SelectCypher.Proofs.Source.Position
import SelectCypher.Proofs.Token.Scanner

namespace SelectCypher

/-!
# Sessions with a scanner

A client may mix the two ways of asking for tokens, put copies of a scanner aside and
go back to them.  Whatever it does, the scanner stands between characters of the text
and its position counts what is before it.  Between two returns it never goes back,
comes to the end of input in time, and a run of tokens that is over stays over.
-/

namespace Scanner

/-- What a client may ask of a scanner. -/
inductive Call
  | next
  | nextToken
  /-- Put a copy of the scanner aside, behind the copies before it. -/
  | clone
  /-- Go on with a copy that was put aside, if there is one of this index. -/
  | restore (index : Nat)
  deriving Repr, DecidableEq

/-- What a call is answered with. -/
inductive Reply
  /-- The next element of the run of tokens, `none` once it is over. -/
  | element (element? : Option (Except LexicalError Token))
  | token (answer : Except LexicalError Token)
  | silent
  deriving DecidableEq

/-- A scanner in use, and the copies put aside. -/
structure Session where
  scanner : Scanner
  copies : List Scanner
  deriving DecidableEq

namespace Reply

/-- The answer of a call for a token. -/
def token? : Reply → Option (Except LexicalError Token)
  | token answer => some answer
  | _ => none

/-- The element that a call for the next one yields. -/
def element? : Reply → Option (Option (Except LexicalError Token))
  | element element? => some element?
  | _ => none

/-- The token or error that a call returns, whichever it asked for. -/
def answer? : Reply → Option (Except LexicalError Token)
  | element element? => element?
  | token answer => some answer
  | silent => none

theorem answer?_of_token?
    {reply : Reply}
    {answer : Except LexicalError Token}
    (isToken : reply.token? = some answer) :
    reply.answer? = some answer := by
  cases reply <;> simp_all [token?, answer?]

/-- Where the token or error that a call returns is placed. -/
def place? (reply : Reply) : Option Position :=
  reply.answer?.map place

end Reply

namespace Session

/-- A session at the first character of a text, with no copies. -/
def ofText (text : String) : Session where
  scanner := .ofText text
  copies := []

/-- What a call is answered with, and the session behind it. -/
def step
    (session : Session) :
    Call →
      Reply × Session
  | .next =>
      match session.scanner.next? with
      | none =>
          (.element none, session)
      | some (answer, behind) =>
          (.element (some answer), { session with scanner := behind })
  | .nextToken =>
      let (answer, behind) := session.scanner.nextToken
      (.token answer, { session with scanner := behind })
  | .clone =>
      (.silent, { session with copies := session.copies ++ [session.scanner] })
  | .restore index =>
      match session.copies[index]? with
      | none =>
          (.silent, session)
      | some copy =>
          (.silent, { session with scanner := copy })

/-- What a row of calls is answered with, and the session behind them. -/
def run (session : Session) : List Call → List Reply × Session
  | [] =>
      ([], session)
  | call :: later =>
      let (reply, next) := session.step call
      let (replies, last) := next.run later
      (reply :: replies, last)

end Session

namespace Session

/-- Everything that a call can do, with what the scanner passes to answer it. -/
inductive Steps (session : Session) : Call → Reply → Session → Prop
  | ended :
      session.scanner.exhausted = true →
      Steps session .next (.element none) session
  | element
      {gap passed : List Char}
      {answer : Except LexicalError Token}
      {behind : Scanner} :
      session.scanner.exhausted = false →
      Scans session.scanner gap passed answer behind →
      Steps session .next (.element (some answer))
        { session with scanner := { behind with exhausted := endsRun answer } }
  | token
      {gap passed : List Char}
      {answer : Except LexicalError Token}
      {behind : Scanner} :
      Scans session.scanner gap passed answer behind →
      Steps session .nextToken (.token answer) { session with scanner := behind }
  | clone :
      Steps session .clone .silent
        { session with copies := session.copies ++ [session.scanner] }
  | restored
      {index : Nat}
      {copy : Scanner} :
      copy ∈ session.copies →
      Steps session (.restore index) .silent { session with scanner := copy }
  | missing {index : Nat} :
      Steps session (.restore index) .silent session

/-- A call does one of these things. -/
theorem steps
    (session : Session)
    (call : Call) :
    Steps session call (session.step call).1 (session.step call).2 := by
  cases call with
  | next =>
      cases ended : session.scanner.exhausted with
      | true =>
          have nothing : session.scanner.next? = none := by
            rw [next?, if_pos ended]
          rw [step, nothing]
          exact .ended ended
      | false =>
          cases scanned : session.scanner.nextToken with
          | mk answer behind =>
              obtain ⟨gap, passed, scans⟩ := exists_scans scanned
              have yields :
                  session.scanner.next? =
                    some (answer, { behind with exhausted := endsRun answer }) := by
                simp [next?, ended, scanned]
              rw [step, yields]
              exact .element ended scans
  | nextToken =>
      cases scanned : session.scanner.nextToken with
      | mk answer behind =>
          obtain ⟨gap, passed, scans⟩ := exists_scans scanned
          rw [step, scanned]
          exact .token scans
  | clone =>
      exact .clone
  | restore index =>
      rw [step]
      cases found : session.copies[index]? with
      | none =>
          exact .missing
      | some copy =>
          exact .restored (List.mem_of_getElem? found)

/-- What a call is answered with is what the scanner of the session answers. -/
theorem exists_scan_of_step
    {session : Session}
    {call : Call}
    {answer : Except LexicalError Token}
    (answered : (session.step call).1.answer? = some answer) :
    ∃ behind, session.scanner.nextToken = (answer, behind) := by
  cases call with
  | next =>
      rw [step, next?] at answered
      cases ended : session.scanner.exhausted with
      | true =>
          simp [ended, Reply.answer?] at answered
      | false =>
          simp only [ended, Bool.false_eq_true, ↓reduceIte, Reply.answer?,
            Option.some.injEq] at answered
          exact ⟨_, Prod.ext answered rfl⟩
  | nextToken =>
      exact ⟨_, Prod.ext (Option.some.inj answered) rfl⟩
  | clone =>
      cases answered
  | restore index =>
      rw [step] at answered
      split at answered <;> cases answered

/-- Everything that a row of calls is answered with is some scanner's answer. -/
theorem exists_scan_of_run
    {session : Session}
    {calls : List Call}
    {reply : Reply}
    {answer : Except LexicalError Token}
    (replied : reply ∈ (session.run calls).1)
    (answered : reply.answer? = some answer) :
    ∃ scanner behind : Scanner, scanner.nextToken = (answer, behind) := by
  induction calls generalizing session with
  | nil =>
      cases replied
  | cons call later inductionHypothesis =>
      rcases List.mem_cons.mp replied with isFirst | inLater
      · rw [isFirst] at answered
        exact ⟨session.scanner, exists_scan_of_step answered⟩
      · exact inductionHypothesis inLater

end Session

/-! ## What holds of every session -/

/-- A scanner that stands in a text, behind a first part of it. -/
def StandsIn
    (scanner : Scanner)
    (text : List Char) :
    Prop :=
  ∃ front,
    text = front ++ scanner.remaining ∧ scanner.position = Position.start.after front

/-- An answer about characters of a text, with the position that counts up to them. -/
def FoundIn
    (text : List Char) :
    Except LexicalError Token →
      Prop
  | .ok token =>
      ∃ front behind,
        text = front ++ (token.text.toList ++ behind) ∧ token.position.Counts front
  | .error failure =>
      ∃ front behind,
        text = front ++ failure.character :: behind ∧ failure.position.Counts front

/-- Elements behind which a run of tokens is over. -/
def isLast : Option (Except LexicalError Token) → Bool
  | none => true
  | some answer => endsRun answer

/-- What is answered without going back to a copy, in a text of some length. -/
structure Onward
    (length : Nat)
    (replies : List Reply) :
    Prop where
  neverBack :
    replies.Pairwise fun earlier later =>
      ∀ first ∈ earlier.place?, ∀ second ∈ later.place?,
        first.offset ≤ second.offset
  /-- The last of `length + 1` calls for a token finds the end, and each one behind. -/
  endsInTime :
    ∀ index answer,
      (replies.filterMap Reply.token?)[index]? = some answer →
      length ≤ index →
      isEndOfInput answer = true
  endsForGood :
    replies.Pairwise fun earlier later =>
      ∀ first ∈ earlier.token?, ∀ second ∈ later.token?,
        isEndOfInput first = true → isEndOfInput second = true
  overForGood :
    replies.Pairwise fun earlier later =>
      ∀ first ∈ earlier.element?, ∀ second ∈ later.element?,
        isLast first = true → second = none

/-- What holds of a session over a text and of everything it has answered. -/
structure Orderly
    (text : List Char)
    (replies : List Reply)
    (session : Session) :
    Prop where
  stands :
    ∃ front,
      text = front ++ session.scanner.remaining ∧
        session.scanner.position.Counts front
  found : ∀ reply ∈ replies, ∀ answer ∈ reply.answer?, FoundIn text answer
  /-- All positions in the text, and so all that are passed, have small numbers. -/
  inRange :
    ∀ position : Position,
      position.Marks text →
      position.line < UInt32.size ∧ position.column < UInt32.size
  inOrder :
    ∀ first second : Position,
      first.Marks text →
      second.Marks text →
      compare first.offset second.offset = first.lineOrder second
  advances :
    ∀ answer behind,
      session.scanner.nextToken = (answer, behind) →
      isEndOfInput answer = false →
      session.scanner.position.offset < behind.position.offset
  onward :
    ∀ calls,
      (∀ index, Call.restore index ∉ calls) →
      Onward text.length (session.run calls).1

/-! ## Scanners in a text -/

theorem standsIn_ofText (text : String) : (ofText text).StandsIn text.toList :=
  ⟨[], rfl, rfl⟩

/-- A scanner further on in a text stands in it too. -/
theorem StandsIn.passes
    {scanner behind : Scanner}
    {text passed : List Char}
    (stands : scanner.StandsIn text)
    (passes : Passes scanner passed behind) :
    behind.StandsIn text := by
  obtain ⟨front, rfl, position⟩ := stands
  refine ⟨front ++ passed, ?_, ?_⟩
  · rw [passes.remaining, List.append_assoc]
  · rw [passes.position, position, Position.after_append]

/-- What a scanner answers with is found in the text in which it stands. -/
theorem StandsIn.foundIn
    {scanner behind : Scanner}
    {text gap passed : List Char}
    {answer : Except LexicalError Token}
    (stands : scanner.StandsIn text)
    (scans : Scans scanner gap passed answer behind) :
    FoundIn text answer := by
  obtain ⟨front, rfl, position⟩ := stands
  have counts : (place answer).Counts (front ++ gap) := by
    rw [scans.place, position, ← Position.after_append]
    exact Position.counts_after _
  cases answer with
  | ok token =>
      refine ⟨front ++ gap, behind.remaining, ?_, counts⟩
      rw [scans.token token rfl, scans.passes.remaining]
      simp
  | error failure =>
      obtain ⟨more, rfl⟩ := List.head?_eq_some_iff.mp (scans.error failure rfl)
      refine ⟨front ++ gap, more ++ behind.remaining, ?_, counts⟩
      rw [scans.passes.remaining]
      simp

namespace Session

/-- A session whose scanner and copies all stand in one text. -/
def StandsIn
    (session : Session)
    (text : List Char) :
    Prop :=
  session.scanner.StandsIn text ∧ ∀ copy ∈ session.copies, copy.StandsIn text

/-- Every call keeps a session in its text and is answered with what is found there. -/
theorem StandsIn.step
    {session : Session}
    {text : List Char}
    (stands : session.StandsIn text)
    (call : Call) :
    (session.step call).2.StandsIn text ∧
      ∀ answer ∈ (session.step call).1.answer?, FoundIn text answer := by
  obtain ⟨scannerStands, copiesStand⟩ := stands
  have steps := session.steps call
  generalize (session.step call).1 = reply at steps ⊢
  generalize (session.step call).2 = next at steps ⊢
  cases steps with
  | ended isEnded =>
      exact ⟨⟨scannerStands, copiesStand⟩, by simp [Reply.answer?]⟩
  | element goesOn scans =>
      refine ⟨⟨scannerStands.passes ⟨scans.passes.1, scans.passes.2⟩, copiesStand⟩, ?_⟩
      rintro other ⟨⟩
      exact scannerStands.foundIn scans
  | token scans =>
      refine ⟨⟨scannerStands.passes scans.passes, copiesStand⟩, ?_⟩
      rintro other ⟨⟩
      exact scannerStands.foundIn scans
  | clone =>
      refine ⟨⟨scannerStands, ?_⟩, by simp [Reply.answer?]⟩
      intro copy member
      rcases List.mem_append.mp member with isOld | isNew
      · exact copiesStand copy isOld
      · rw [List.mem_singleton.mp isNew]
        exact scannerStands
  | restored member =>
      exact ⟨⟨copiesStand _ member, copiesStand⟩, by simp [Reply.answer?]⟩
  | missing =>
      exact ⟨⟨scannerStands, copiesStand⟩, by simp [Reply.answer?]⟩

/-- A whole run keeps a session in its text, and so does what it is answered with. -/
theorem StandsIn.run
    {session : Session}
    {text : List Char}
    (stands : session.StandsIn text)
    (calls : List Call) :
    (session.run calls).2.StandsIn text ∧
      ∀ reply ∈ (session.run calls).1, ∀ answer ∈ reply.answer?, FoundIn text answer := by
  induction calls generalizing session with
  | nil =>
      exact ⟨stands, by simp [Session.run]⟩
  | cons call later inductionHypothesis =>
      obtain ⟨nextStands, replyFound⟩ := stands.step call
      obtain ⟨lastStands, repliesFound⟩ := inductionHypothesis nextStands
      refine ⟨lastStands, ?_⟩
      intro reply member
      rcases List.mem_cons.mp member with rfl | inLater
      · exact replyFound
      · exact repliesFound reply inLater

end Session

/-! ## Going on without going back -/

/-- What a call does to a scanner that it does not replace by a copy. -/
structure Moves
    (before : Scanner)
    (reply : Reply)
    (after : Scanner) :
    Prop where
  forth : before.position.offset ≤ after.position.offset
  shorter : after.remaining.length ≤ before.remaining.length
  exhausted : before.exhausted = true → after.exhausted = true
  place :
    ∀ place ∈ reply.place?,
      before.position.offset ≤ place.offset ∧ place.offset ≤ after.position.offset
  token :
    ∀ answer ∈ reply.token?,
      if isEndOfInput answer then
        after.remaining = []
      else
        after.remaining.length < before.remaining.length
  element :
    ∀ element? ∈ reply.element?,
      (before.exhausted = true → element? = none) ∧
        (isLast element? = true → after.exhausted = true)

/-- A scanner that is not asked for a token stays where it is. -/
theorem Moves.stay
    {scanner : Scanner}
    {reply : Reply}
    (nothing : reply.answer? = none)
    (noToken : reply.token? = none)
    (ended : ∀ element? ∈ reply.element?, element? = none ∧ scanner.exhausted = true) :
    Moves scanner reply scanner where
  forth := Nat.le_refl _
  shorter := Nat.le_refl _
  exhausted := id
  place := by
    simp [Reply.place?, nothing]
  token := by
    simp [noToken]
  element := by
    intro element? member
    exact ⟨fun _ => (ended element? member).1, fun _ => (ended element? member).2⟩

/-- A scanner that answers moves over what it passes. -/
theorem Moves.scan
    {scanner behind : Scanner}
    {gap passed : List Char}
    {answer : Except LexicalError Token}
    {reply : Reply}
    {ended : Bool}
    (scans : Scans scanner gap passed answer behind)
    (answers : reply.answer? = some answer)
    (exhausted : scanner.exhausted = true → ended = true)
    (element :
      ∀ element? ∈ reply.element?,
        (scanner.exhausted = true → element? = none) ∧
          (isLast element? = true → ended = true)) :
    Moves scanner reply { behind with exhausted := ended } := by
  have reached := scans.passes.offset
  have remaining := congrArg List.length scans.passes.remaining
  rw [byteLength_append] at reached
  rw [List.length_append, List.length_append] at remaining
  refine {
    forth := ?_
    shorter := ?_
    exhausted := exhausted
    place := ?_
    token := ?_
    element := element }
  · show scanner.position.offset ≤ behind.position.offset
    omega
  · show behind.remaining.length ≤ scanner.remaining.length
    omega
  · intro place member
    rw [Reply.place?, answers] at member
    cases member
    rw [scans.place, Position.after_offset]
    show _ ∧ _ ≤ behind.position.offset
    omega
  · intro other member
    have same : reply.answer? = some other := Reply.answer?_of_token? member
    rw [answers, Option.some.injEq] at same
    subst same
    split
    · rename_i isEnd
      exact scans.finished isEnd
    · rename_i notEnd
      have someChars := List.length_pos_iff.mpr (scans.progress (by simpa using notEnd))
      show behind.remaining.length < scanner.remaining.length
      omega

/-- A call that does not go back to a copy moves the scanner. -/
theorem Session.Steps.moves
    {session next : Session}
    {call : Call}
    {reply : Reply}
    (steps : Steps session call reply next)
    (notBack : ∀ index, call ≠ .restore index) :
    Moves session.scanner reply next.scanner := by
  cases steps with
  | ended isEnded =>
      refine Moves.stay rfl rfl ?_
      rintro element? ⟨⟩
      exact ⟨rfl, isEnded⟩
  | element goesOn scans =>
      refine Moves.scan scans rfl ?_ ?_
      · intro isEnded
        simp [isEnded] at goesOn
      · rintro element? ⟨⟩
        refine ⟨?_, id⟩
        intro isEnded
        simp [isEnded] at goesOn
  | token scans =>
      refine Moves.scan scans rfl ?_ ?_
      · exact scans.exhausted.trans
      · rintro element? ⟨⟩
  | clone =>
      refine Moves.stay rfl rfl ?_
      rintro element? ⟨⟩
  | restored member =>
      exact absurd rfl (notBack _)
  | missing =>
      exact absurd rfl (notBack _)

/-- What a scanner answers with from where it stands, without going back to a copy. -/
structure Ahead
    (scanner : Scanner)
    (replies : List Reply) :
    Prop where
  onward : Onward scanner.remaining.length replies
  places :
    ∀ reply ∈ replies, ∀ place ∈ reply.place?,
      scanner.position.offset ≤ place.offset
  ended :
    scanner.exhausted = true →
    ∀ reply ∈ replies, ∀ element? ∈ reply.element?, element? = none

/-- At the end of a text nothing but the end of input is answered. -/
theorem Ahead.atEnd
    {scanner : Scanner}
    {replies : List Reply}
    (ahead : Ahead scanner replies)
    (nothing : scanner.remaining = []) :
    ∀ reply ∈ replies, ∀ answer ∈ reply.token?, isEndOfInput answer = true := by
  intro reply member answer isToken
  have listed : answer ∈ replies.filterMap Reply.token? :=
    List.mem_filterMap.mpr ⟨reply, member, isToken⟩
  obtain ⟨index, found⟩ := List.getElem?_of_mem listed
  exact ahead.onward.endsInTime index answer found (by simp [nothing])

/-- Of the answers to calls for tokens those at a late index find the end. -/
theorem Ahead.endsInTime_cons
    {before after : Scanner}
    {reply : Reply}
    {replies : List Reply}
    (moves : Moves before reply after)
    (ahead : Ahead after replies)
    {index : Nat}
    {answer : Except LexicalError Token}
    (found : ((reply :: replies).filterMap Reply.token?)[index]? = some answer)
    (late : before.remaining.length ≤ index) :
    isEndOfInput answer = true := by
  cases isToken : reply.token? with
  | none =>
      rw [List.filterMap_cons_none isToken] at found
      exact ahead.onward.endsInTime index answer found
        (Nat.le_trans moves.shorter late)
  | some first =>
      have moved := moves.token first isToken
      rw [List.filterMap_cons_some isToken] at found
      cases index with
      | zero =>
          simp only [List.getElem?_cons_zero, Option.some.injEq] at found
          subst found
          split at moved
          · assumption
          · omega
      | succ index =>
          rw [List.getElem?_cons_succ] at found
          apply ahead.onward.endsInTime index answer found
          split at moved
          · simp [moved]
          · omega

/-- One more answer in front, to a call that moves the scanner. -/
theorem Ahead.cons
    {before after : Scanner}
    {reply : Reply}
    {replies : List Reply}
    (moves : Moves before reply after)
    (ahead : Ahead after replies) :
    Ahead before (reply :: replies) where
  onward := {
    neverBack := by
      refine .cons ?_ ahead.onward.neverBack
      intro later member first isFirst second isSecond
      have reached := (moves.place first isFirst).2
      exact Nat.le_trans reached (ahead.places later member second isSecond)
    endsInTime := fun index answer => ahead.endsInTime_cons moves
    endsForGood := by
      refine .cons ?_ ahead.onward.endsForGood
      intro later member first isFirst second isSecond isEnd
      have moved := moves.token first isFirst
      rw [if_pos isEnd] at moved
      exact ahead.atEnd moved later member second isSecond
    overForGood := by
      refine .cons ?_ ahead.onward.overForGood
      intro later member first isFirst second isSecond isLast
      have isEnded := (moves.element first isFirst).2 isLast
      exact ahead.ended isEnded later member second isSecond }
  places := by
    intro later member place isPlace
    rcases List.mem_cons.mp member with rfl | inRest
    · exact (moves.place place isPlace).1
    · exact Nat.le_trans moves.forth (ahead.places later inRest place isPlace)
  ended := by
    intro isEnded later member element? isElement
    rcases List.mem_cons.mp member with rfl | inRest
    · exact (moves.element element? isElement).1 isEnded
    · exact ahead.ended (moves.exhausted isEnded) later inRest element? isElement

/-- A run without a return answers with what is ahead of the scanner. -/
theorem Session.ahead_of_run
    {session : Session}
    {calls : List Call}
    (notBack : ∀ index, Call.restore index ∉ calls) :
    Ahead session.scanner (session.run calls).1 := by
  induction calls generalizing session with
  | nil =>
      exact ⟨⟨.nil, by simp [run], .nil, .nil⟩, by simp [run], by simp [run]⟩
  | cons call later inductionHypothesis =>
      simp only [List.mem_cons, not_or] at notBack
      have moves : Moves session.scanner (session.step call).1
          (session.step call).2.scanner := by
        apply (session.steps call).moves
        intro index same
        exact (notBack index).1 same.symm
      exact (inductionHypothesis fun index => (notBack index).2).cons moves

/-- In a longer text there is only more time to come to the end. -/
theorem Onward.mono
    {length longer : Nat}
    {replies : List Reply}
    (onward : Onward length replies)
    (noLess : length ≤ longer) :
    Onward longer replies where
  neverBack := onward.neverBack
  endsInTime := fun index answer found late =>
    onward.endsInTime index answer found (Nat.le_trans noLess late)
  endsForGood := onward.endsForGood
  overForGood := onward.overForGood

/--
Whatever a client does with a scanner of a text that is not too long, the scanner
stands between characters and its position counts those before it, everything it
answers with is found in the text at a position with small numbers, and between two
returns it goes on to the end of input and stays there.
-/
theorem Session.orderly_run
    {text : String}
    (short : text.toList.length < UInt32.size - 1)
    (calls : List Call) :
    Orderly text.toList ((ofText text).run calls).1 ((ofText text).run calls).2 := by
  have begins : (ofText text).StandsIn text.toList :=
    ⟨standsIn_ofText text, by simp [ofText]⟩
  obtain ⟨⟨⟨front, shape, position⟩, -⟩, found⟩ := begins.run calls
  exact {
    stands := ⟨front, shape, by rw [position]; exact Position.counts_after front⟩
    found := found
    inRange := by
      intro place marks
      obtain ⟨-, line, column⟩ := marks.bounds
      omega
    inOrder := fun first second => Position.Marks.compare_offset
    advances := by
      intro answer behind scanned notEnd
      obtain ⟨gap, passed, scans⟩ := exists_scans scanned
      obtain ⟨character, rest, rfl⟩ :=
        List.exists_cons_of_ne_nil (scans.progress notEnd)
      have positive := character.utf8Size_pos
      rw [scans.passes.offset, byteLength_append, byteLength_cons]
      omega
    onward := by
      intro later notBack
      apply (ahead_of_run notBack).onward.mono
      rw [shape, List.length_append]
      omega }

/-- Both ways of asking mixed, past two errors, and a return to a copy before them. -/
theorem Session.orderly_run_mixed :
    let text := "a\n!é"
    let calls : List Call :=
      [.nextToken, .clone, .next, .nextToken, .nextToken, .next, .restore 0, .next,
        .next]
    let exclamation : LexicalError :=
      { cause := .unexpectedCharacter
        character := '!'
        position := { offset := 2, line := 2, column := 1 } }
    let accented : LexicalError :=
      { cause := .unexpectedCharacter
        character := 'é'
        position := { offset := 3, line := 2, column := 2 } }
    let replies : List Reply :=
      [.token
          (.ok
            { kind := .identifier
              text := "a"
              position := { offset := 0, line := 1, column := 1 } }),
        .silent, .element (some (.error exclamation)), .token (.error accented),
        .token (.ok (.endAt { offset := 5, line := 2, column := 3 })), .element none,
        .silent, .element (some (.error exclamation)), .element none]
    text.toList.length < UInt32.size - 1 ∧
      ((ofText text).run calls).1 = replies ∧
      Orderly text.toList replies ((ofText text).run calls).2 := by
  intro text calls exclamation accented replies
  have short : text.toList.length < UInt32.size - 1 := by decide
  have answered : ((ofText text).run calls).1 = replies := by decide +kernel
  have orderly := Session.orderly_run short calls
  rw [answered] at orderly
  exact ⟨short, answered, orderly⟩

end Scanner

end SelectCypher
