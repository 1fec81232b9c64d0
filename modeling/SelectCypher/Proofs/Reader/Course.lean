import SelectCypher.Proofs.Grammar.Verdict
import SelectCypher.Reader.Basic

namespace SelectCypher

open Grammar

/-!
# The course of a reading

`Reader.Follows` states what one procedure of a reader does, whatever the tokens:
if it succeeds, it passes tokens that lead from one place of the grammar to
another; if it fails, its error is the verdict on everything the reader sees.
Procedures that run one behind the other follow one course, by `Follows.bind`.
-/

/--
A stream that ends as those of texts do: with its only end of input, or in a
lexical error that no end of input precedes.
-/
structure TokenStream.Closed (stream : TokenStream) : Prop where
  ends :
    stream.failure? = none →
    ∃ body last,
      stream.tokens = body ++ [last] ∧ last.kind = .endOfInput
  nothingBehindEnd :
    ∀ {before last behind},
      stream.tokens = before ++ last :: behind →
      last.kind = .endOfInput →
      behind = [] ∧ stream.failure? = none

namespace Reader

/-- The tokens not passed yet, the one under view first. -/
def tokens (reader : Reader) : List Token :=
  reader.current :: reader.upcoming

/-- Everything a reader still has before it. -/
def stream (reader : Reader) : TokenStream where
  tokens := reader.tokens
  failure? := reader.failure?

/-- One reader stands behind some tokens of another, with the same limit. -/
structure Passes
    (before : Reader)
    (passed : List Token)
    (after : Reader) :
    Prop where
  tokens : before.tokens = passed ++ after.tokens
  failure? : after.failure? = before.failure?
  maxDepth : after.maxDepth = before.maxDepth

namespace Passes

theorem refl (reader : Reader) : Passes reader [] reader where
  tokens := rfl
  failure? := rfl
  maxDepth := rfl

theorem trans
    {first second third : Reader}
    {passed more : List Token}
    (earlier : Passes first passed second)
    (later : Passes second more third) :
    Passes first (passed ++ more) third where
  tokens := by
    rw [earlier.tokens, later.tokens, List.append_assoc]
  failure? :=
    later.failure?.trans earlier.failure?
  maxDepth :=
    later.maxDepth.trans earlier.maxDepth

/-- What is left of a closed stream is closed. -/
theorem closed
    {before after : Reader}
    {passed : List Token}
    (passes : Passes before passed after)
    (closedBefore : before.stream.Closed) :
    after.stream.Closed where
  ends := by
    intro complete
    obtain ⟨body, last, shape, isEnd⟩ :=
      closedBefore.ends (passes.failure?.symm.trans complete)
    rcases List.eq_nil_or_concat after.tokens with nothing | ⟨front, final, ending⟩
    · simp [Reader.tokens] at nothing
    · rw [List.concat_eq_append] at ending
      refine ⟨front, final, ending, ?_⟩
      have whole : passed ++ front ++ [final] = body ++ [last] := by
        rw [List.append_assoc, ← ending, ← passes.tokens]
        exact shape
      obtain ⟨-, same⟩ := List.append_inj' whole rfl
      simp only [List.cons.injEq, and_true] at same
      rw [same]
      exact isEnd
  nothingBehindEnd := by
    intro front last behind shape isEnd
    have whole : before.stream.tokens = (passed ++ front) ++ last :: behind := by
      have rest : after.tokens = front ++ last :: behind := shape
      simp [stream, passes.tokens, rest]
    obtain ⟨nothing, complete⟩ := closedBefore.nothingBehindEnd whole isEnd
    exact ⟨nothing, passes.failure?.trans complete⟩

end Passes

/--
What a procedure does that starts where a reader stands, at a place of the
grammar.  Success passes tokens within the limit up to the next place, where
`meets` holds of them, of the value and of the reader behind them.  Failure is
the verdict on what the reader sees.
-/
def Follows
    {origin : Reader}
    {α : Type}
    (reader : Reader)
    (place : Place)
    (next : α → Place)
    (meets : List Token → α → Reader → Prop)
    (result : Except QueryError (Parsed origin α)) :
    Prop :=
  match result with
  | .ok parsed =>
      ∃ passed,
        Passes reader passed parsed.after ∧
          place.walk reader.maxDepth passed = .ok (next parsed.value) ∧
          meets passed parsed.value parsed.after
  | .error failure =>
      place.verdict reader.maxDepth reader.stream = .error failure

/-- A verdict from further on is the verdict on the whole. -/
theorem Passes.verdict_eq
    {before after : Reader}
    {passed : List Token}
    {place middle : Place}
    (passes : Passes before passed after)
    (walked : place.walk before.maxDepth passed = .ok middle) :
    place.verdict before.maxDepth before.stream =
      middle.verdict after.maxDepth after.stream := by
  simp only [Place.verdict, stream, passes.tokens, Place.walk_append, walked,
    passes.failure?, passes.maxDepth]
  rfl

namespace Follows

variable {origin later reader : Reader}
variable {α β : Type}
variable {place : Place}

/-- A procedure that goes on where another stops follows the course of both. -/
theorem bind
    {middle : α → Place}
    {next : β → Place}
    {reached : List Token → α → Reader → Prop}
    {meets : List Token → β → Reader → Prop}
    {first : Except QueryError (Parsed origin α)}
    {second : Parsed origin α → Except QueryError (Parsed later β)}
    (closed : reader.stream.Closed)
    (start : Follows reader place middle reached first)
    (continues :
      ∀ parsed passed,
        parsed.after.stream.Closed →
        parsed.after.maxDepth = reader.maxDepth →
        reached passed parsed.value parsed.after →
        Follows parsed.after (middle parsed.value) next
          (fun more => meets (passed ++ more)) (second parsed)) :
    Follows reader place next meets (first >>= second) := by
  cases first with
  | error failure =>
      exact start
  | ok parsed =>
      obtain ⟨passed, passes, walked, reachedMiddle⟩ := start
      have rest :=
        continues parsed passed (passes.closed closed) passes.maxDepth reachedMiddle
      simp only [Bind.bind, Except.bind]
      cases outcome : second parsed with
      | error failure =>
          rw [outcome] at rest
          exact (passes.verdict_eq walked).trans rest
      | ok final =>
          rw [outcome] at rest
          obtain ⟨more, morePasses, moreWalked, met⟩ := rest
          refine ⟨passed ++ more, passes.trans morePasses, ?_, met⟩
          rw [Place.walk_append, walked]
          exact passes.maxDepth ▸ moreWalked

/-- The count of open parentheses that a reader keeps is no part of what it sees. -/
theorem of_withDepth
    {next : α → Place}
    {meets : List Token → α → Reader → Prop}
    {result : Except QueryError (Parsed origin α)}
    {depth : Nat}
    (follows : Follows { reader with depth := depth } place next meets result) :
    Follows reader place next meets result := by
  cases result with
  | error failure =>
      exact follows
  | ok parsed =>
      obtain ⟨passed, passes, walked, met⟩ := follows
      exact ⟨passed, ⟨passes.tokens, passes.failure?, passes.maxDepth⟩, walked, met⟩

/-- Returning a value without passing a token stays at its place. -/
theorem ok
    {next : α → Place}
    {meets : List Token → α → Reader → Prop}
    {parsed : Parsed origin α}
    (stays : Passes reader [] parsed.after)
    (samePlace : next parsed.value = place)
    (met : meets [] parsed.value parsed.after) :
    Follows reader place next meets (.ok parsed) :=
  ⟨[], stays, by rw [samePlace]; rfl, met⟩

/-- A reader at a kind that leads nowhere reports what was expected instead. -/
theorem unexpected
    {next : α → Place}
    {meets : List Token → α → Reader → Prop}
    {expected : List TokenKind}
    (blocked : place.next? reader.current.kind = none)
    (exact : expected = place.expected) :
    Follows reader place next meets
      (.error (reader.unexpected expected) :
        Except QueryError (Parsed origin α)) := by
  simp only [Follows, Place.verdict, stream, tokens, Place.walk_cons, Place.step,
    blocked, exact]
  rfl

/-- Passing the token under view makes one step. -/
theorem advance
    {next : Place}
    {notEnd : reader.current.kind ≠ .endOfInput}
    (closed : reader.stream.Closed)
    (steps : place.step reader.maxDepth reader.current = .ok next) :
    Follows reader place (fun _ => next)
      (fun passed token after =>
        passed = [reader.current] ∧ token = reader.current ∧
          after.depth = reader.depth)
      (reader.advance notEnd) := by
  have walked : place.walk reader.maxDepth [reader.current] = .ok next := by
    rw [Place.walk_cons, steps]
    rfl
  unfold Reader.advance
  split
  · rename_i token rest upcoming
    refine ⟨[reader.current], ⟨?_, rfl, rfl⟩, walked, rfl, rfl, rfl⟩
    simp [tokens, upcoming]
  · rename_i upcoming
    split
    · rename_i failure fails
      simp only [Follows, Place.verdict, stream, tokens, upcoming, walked, fails]
      rfl
    · -- Without an error the last token of a closed stream is the end of input.
      rename_i complete
      obtain ⟨body, last, shape, isEnd⟩ := closed.ends complete
      have single : [] ++ [reader.current] = body ++ [last] := by
        simpa [stream, tokens, upcoming] using shape
      obtain ⟨-, same⟩ := List.append_inj' single rfl
      simp only [List.cons.injEq, and_true] at same
      exact absurd (same ▸ isEnd) notEnd

/--
Passing a token of one kind makes one step, if no other kind leads on where the
token under view has another.
-/
theorem expect
    {next : Place}
    {kind : TokenKind}
    {expected : List TokenKind}
    {notEnd : kind ≠ .endOfInput}
    (closed : reader.stream.Closed)
    (leads : place.next? kind = some next)
    (notOpening : kind ≠ .leftParen)
    (others :
      reader.current.kind ≠ kind →
      place.next? reader.current.kind = none ∧ expected = place.expected) :
    Follows reader place (fun _ => next)
      (fun passed token after =>
        passed = [reader.current] ∧ token = reader.current ∧
          token.kind = kind ∧ after.depth = reader.depth)
      (reader.expect kind expected notEnd) := by
  unfold Reader.expect
  split
  · rename_i seen
    have steps : place.step reader.maxDepth reader.current = .ok next := by
      rw [Place.step_eq_ok_iff, seen]
      exact ⟨leads, fun isOpening => absurd isOpening notOpening⟩
    have someLeft : reader.current.kind ≠ .endOfInput := by
      rw [seen]
      exact notEnd
    have passing : Follows reader place _ _ (reader.advance someLeft) :=
      advance closed steps
    generalize reader.advance _ = result at passing ⊢
    cases result with
    | error failure =>
        exact passing
    | ok parsed =>
        obtain ⟨passed, passes, walked, shape, same, depth⟩ := passing
        exact ⟨passed, passes, walked, shape, same, same ▸ seen, depth⟩
  · rename_i notSeen
    obtain ⟨blocked, exact⟩ := others notSeen
    exact unexpected blocked exact

end Follows

end Reader

end SelectCypher
