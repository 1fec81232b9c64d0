import SelectCypher.Proofs.Grammar.Pairs
import SelectCypher.Proofs.Reader.Query

namespace SelectCypher

open Grammar

/-!
# The calls that read a condition

`Visits` lists every call of the procedures for conditions that reading a query
makes, with the reader each call is given.  At each of them the reader's count of
open parentheses is exact: it is the number of parentheses that have been passed and
not closed, and it keeps within the limit.
-/

namespace Reader

/-- A call of a procedure that reads a condition, or a pass of its loop. -/
inductive Call
  | atom (reader : Reader)
  | condition (reader : Reader) (leastPower : Nat)
  | operands (reader : Reader) (leastPower : Nat)
  deriving Repr, DecidableEq

namespace Call

/-- The reader that a call is given. -/
def reader : Call → Reader
  | atom reader | condition reader _ | operands reader _ =>
      reader

/-- The place of the grammar at which a call begins. -/
def place : Call → Place
  | atom reader | condition reader _ =>
      .operand reader.depth
  | operands reader _ =>
      .behindOperand reader.depth

theorem place_depth (call : Call) : call.place.depth = call.reader.depth := by
  cases call <;> rfl

end Call

/-- The calls that a call makes itself. -/
inductive Calls : Call → Call → Prop
  /-- A condition begins with an operand. -/
  | operand
      {reader : Reader}
      {leastPower : Nat} :
      Calls (.condition reader leastPower) (.atom reader)
  /-- Behind its first operand a condition goes on in a loop. -/
  | loop
      {reader : Reader}
      {leastPower : Nat}
      {left : Parsed reader Condition} :
      reader.atom = .ok left →
      Calls (.condition reader leastPower) (.operands left.after leastPower)
  /-- Behind a parenthesis a condition is read with one more of them open. -/
  | group
      {reader : Reader}
      {opened : Parsed reader Token}
      (opens : reader.current.kind = .leftParen) :
      ¬ reader.maxDepth ≤ reader.depth →
      reader.advance (by simp [opens]) = .ok opened →
      Calls (.atom reader)
        (.condition { opened.after with depth := opened.after.depth + 1 } 0)
  /-- Behind a connective strong enough its right operand is read. -/
  | right
      {reader : Reader}
      {leastPower : Nat}
      {connective : Connective}
      {passed : Parsed reader Token}
      (joins : reader.current.kind.connective? = some connective) :
      ¬ connective.leftPower < leastPower →
      reader.advance (TokenKind.ne_endOfInput_of_connective? joins) = .ok passed →
      Calls (.operands reader leastPower)
        (.condition passed.after connective.rightPower)
  /-- Behind the right operand the loop goes on. -/
  | again
      {reader : Reader}
      {leastPower : Nat}
      {connective : Connective}
      {passed : Parsed reader Token}
      {right : Parsed passed.after Condition}
      (joins : reader.current.kind.connective? = some connective) :
      ¬ connective.leftPower < leastPower →
      reader.advance (TokenKind.ne_endOfInput_of_connective? joins) = .ok passed →
      passed.after.condition connective.rightPower = .ok right →
      Calls (.operands reader leastPower) (.operands right.after leastPower)

/-- The calls that reading a query makes, from the condition behind `WHERE` on. -/
inductive Visits (start : Reader) : Call → Prop
  | filter
      {opening : Parsed start Token}
      {selection : Parsed opening.after Selection}
      {middle : Parsed selection.after Token}
      {table : Parsed middle.after Identifier}
      {passed : Parsed table.after Token}
      (filtered : table.after.current.kind = .keyword .whereWord) :
      start.expect (.keyword .selectWord) [.keyword .selectWord] = .ok opening →
      opening.after.selection = .ok selection →
      selection.after.expect (.keyword .fromWord)
          (selectionFollow selection.value) = .ok middle →
      middle.after.identifier [.identifier] = .ok table →
      table.after.advance (by simp [filtered]) = .ok passed →
      Visits start (.condition passed.after 0)
  | further
      {caller callee : Call} :
      Visits start caller →
      Calls caller callee →
      Visits start callee

/-! ## Where calls begin -/

/-- A reader stands at a place, behind tokens which lead there from the start. -/
structure Reaches
    (start : Reader)
    (place : Place)
    (reader : Reader) :
    Prop where
  passed :
    ∃ passed,
      Passes start passed reader ∧
        Place.opening.walk start.maxDepth passed = .ok place
  closed : reader.stream.Closed

namespace Reaches

variable {start reader : Reader}
variable {place : Place}

theorem refl
    (closed : start.stream.Closed) :
    Reaches start .opening start where
  passed := ⟨[], .refl start, rfl⟩
  closed := closed

/-- What succeeds at a place that is reached reaches the next one. -/
theorem behind
    {origin : Reader}
    {α : Type}
    {next : α → Place}
    {meets : List Token → α → Reader → Prop}
    {result : Except QueryError (Parsed origin α)}
    {parsed : Parsed origin α}
    (reaches : Reaches start place reader)
    (follows : Follows reader place next meets result)
    (succeeds : result = .ok parsed) :
    Reaches start (next parsed.value) parsed.after ∧
      ∃ passed, meets passed parsed.value parsed.after := by
  rw [succeeds] at follows
  obtain ⟨more, passes, walked, met⟩ := follows
  obtain ⟨passed, earlier, reached⟩ := reaches.passed
  refine ⟨⟨⟨passed ++ more, earlier.trans passes, ?_⟩, passes.closed reaches.closed⟩,
    more, met⟩
  rw [Place.walk_append, reached]
  exact earlier.maxDepth ▸ walked

/-- The count of open parentheses that a reader keeps is no part of where it stands. -/
theorem withDepth
    (depth : Nat)
    (reaches : Reaches start place reader) :
    Reaches start place { reader with depth := depth } where
  passed := by
    obtain ⟨passed, passes, walked⟩ := reaches.passed
    exact ⟨passed, ⟨passes.tokens, passes.failure?, passes.maxDepth⟩, walked⟩
  closed := reaches.closed

/-- A connective is passed to its right operand. -/
theorem right
    {connective : Connective}
    {passed : Parsed reader Token}
    (reaches : Reaches start (.behindOperand reader.depth) reader)
    (joins : reader.current.kind.connective? = some connective)
    (advanced :
      reader.advance (TokenKind.ne_endOfInput_of_connective? joins) = .ok passed) :
    Reaches start (.operand passed.after.depth) passed.after := by
  obtain ⟨further, -, -, -, sameDepth⟩ :=
    reaches.behind (Follows.advance reaches.closed (step_of_connective joins)) advanced
  rw [sameDepth]
  exact further

/-- An opening parenthesis is passed to the place inside it. -/
theorem inside
    {opened : Parsed reader Token}
    (reaches : Reaches start (.operand reader.depth) reader)
    (opens : reader.current.kind = .leftParen)
    (roomy : ¬ reader.maxDepth ≤ reader.depth)
    (advanced : reader.advance (by simp [opens]) = .ok opened) :
    Reaches start (.operand (opened.after.depth + 1)) opened.after ∧
      opened.after.depth = reader.depth := by
  obtain ⟨further, -, -, -, sameDepth⟩ :=
    reaches.behind (Follows.advance reaches.closed (step_of_group opens roomy)) advanced
  rw [sameDepth]
  exact ⟨further, rfl⟩

/-- A condition is read up to the place behind it, as deep as it began. -/
theorem behindCondition
    {leastPower : Nat}
    {condition : Parsed reader Condition}
    (reaches : Reaches start (.operand reader.depth) reader)
    (read : reader.condition leastPower = .ok condition) :
    Reaches start (.behindOperand condition.after.depth) condition.after ∧
      condition.after.depth = reader.depth ∧
      LeavesTo leastPower condition.after.current.kind := by
  obtain ⟨further, -, -, sameDepth, leaves⟩ :=
    reaches.behind (condition_follows leastPower reaches.closed) read
  rw [sameDepth]
  exact ⟨further, rfl, leaves⟩

end Reaches

/-- A call that begins at its place makes calls that begin at theirs. -/
theorem Calls.reaches
    {start : Reader}
    {caller callee : Call}
    (calls : Calls caller callee)
    (reaches : Reaches start caller.place caller.reader) :
    Reaches start callee.place callee.reader := by
  cases calls with
  | operand =>
      exact reaches
  | @loop reader leastPower left readLeft =>
      have reading := follows_of_condition.1 reader reader.depth rfl reaches.closed
      obtain ⟨further, -, -, sameDepth⟩ := reaches.behind reading readLeft
      rw [Call.place, sameDepth]
      exact further
  | group opens roomy advanced =>
      exact (reaches.inside opens roomy advanced).1.withDepth _
  | right joins strong advanced =>
      exact reaches.right joins advanced
  | again joins strong advanced readRight =>
      exact ((reaches.right joins advanced).behindCondition readRight).1

/-- Every call that reading a query makes begins at its place. -/
theorem Visits.reaches
    {start : Reader}
    {call : Call}
    (closed : start.stream.Closed)
    (outside : start.depth = 0)
    (visits : Visits start call) :
    Reaches start call.place call.reader := by
  induction visits with
  | @filter opening selection middle table passed filtered opened selected joined named
      advanced =>
      have begins := Reaches.refl closed
      obtain ⟨atSelection, -, -, -, -, openingDepth⟩ :=
        begins.behind
          (Follows.expect begins.closed rfl (by simp) (Place.blocked_of_only rfl)) opened
      obtain ⟨atSource, -, -, noComma, selectionDepth⟩ :=
        atSelection.behind (selection_follows atSelection.closed) selected
      obtain ⟨atTable, -, -, -, -, sourceDepth⟩ :=
        atSource.behind (source_follows atSource.closed noComma) joined
      obtain ⟨behindTable, -, -, -, -, tableDepth⟩ :=
        atTable.behind
          (identifier_follows atTable.closed rfl (Place.blocked_of_only rfl)) named
      obtain ⟨atCondition, -, -, -, passedDepth⟩ :=
        behindTable.behind
          (Follows.advance behindTable.closed (step_of_filter filtered)) advanced
      have stillOutside : passed.after.depth = 0 := by
        rw [passedDepth, tableDepth, sourceDepth, selectionDepth, openingDepth, outside]
      rw [Call.place, stillOutside]
      exact atCondition
  | further visits calls inductionHypothesis =>
      exact calls.reaches inductionHypothesis

/-! ## The count of open parentheses -/

/--
A reader counts the parentheses of some tokens that it has passed and not closed.
None of them was closed before it was opened, and the count keeps within the limit.
-/
structure CountsOpen
    (limit : Nat)
    (tokens : List Token)
    (reader : Reader) :
    Prop where
  exact :
    ∃ passed,
      tokens = passed ++ reader.tokens ∧
        openings passed = reader.depth + closings passed ∧
        ∀ front behind, passed = front ++ behind → closings front ≤ openings front
  within : reader.depth ≤ limit

/-- What is walked from the opening place closes only what it has opened. -/
theorem openings_eq_of_walk
    {limit : Nat}
    {place : Place}
    {tokens : List Token}
    (walked : Place.opening.walk limit tokens = .ok place) :
    openings tokens = place.depth + closings tokens := by
  have counted := Place.path?_depth (Place.path?_of_walk walked)
  simpa [List.countP_map, Function.comp_def, Place.depth, openings, closings] using
    counted

/-- A reader that counts as its place does counts exactly. -/
theorem Reaches.countsOpen
    {start reader : Reader}
    {place : Place}
    (reaches : Reaches start place reader)
    (sameDepth : place.depth = reader.depth) :
    CountsOpen start.maxDepth start.tokens reader where
  exact := by
    obtain ⟨passed, passes, walked⟩ := reaches.passed
    refine ⟨passed, passes.tokens, ?_, ?_⟩
    · rw [← sameDepth]
      exact openings_eq_of_walk walked
    · rintro front behind rfl
      obtain ⟨middle, frontWalked, -⟩ := Place.walk_append_eq_ok walked
      rw [openings_eq_of_walk frontWalked]
      exact Nat.le_add_left _ _
  within := by
    obtain ⟨passed, passes, walked⟩ := reaches.passed
    rw [← sameDepth]
    exact Place.depth_le_of_walk (Nat.zero_le _) walked

/-- The reader behind a group that an operand is, before it counts one less. -/
inductive ClosesGroup (reader : Reader) : Reader → Prop
  | closed
      {opened : Parsed reader Token}
      {inner : Parsed { opened.after with depth := opened.after.depth + 1 } Condition}
      {closing : Parsed inner.after Token}
      (opens : reader.current.kind = .leftParen) :
      ¬ reader.maxDepth ≤ reader.depth →
      reader.advance (by simp [opens]) = .ok opened →
      { opened.after with depth := opened.after.depth + 1 }.condition 0 = .ok inner →
      inner.after.expect .rightParen [.keyword .andWord, .keyword .orWord, .rightParen] =
        .ok closing →
      ClosesGroup reader closing.after

/-- Inside a group one more parenthesis is counted than in front of it. -/
theorem Reaches.depth_of_closesGroup
    {start reader behind : Reader}
    (reaches : Reaches start (.operand reader.depth) reader)
    (closes : ClosesGroup reader behind) :
    behind.depth = reader.depth + 1 := by
  cases closes with
  | @closed opened inner closing opens roomy advanced readInside readClosing =>
      obtain ⟨atInside, openedDepth⟩ := reaches.inside opens roomy advanced
      obtain ⟨atClosing, innerDepth, leaves⟩ :=
        (atInside.withDepth _).behindCondition readInside
      rw [show inner.after.depth = opened.after.depth + 1 from innerDepth] at atClosing
      obtain ⟨-, -, -, -, -, closingDepth⟩ :=
        atClosing.behind (closing_follows atClosing.closed leaves) readClosing
      rw [closingDepth, innerDepth, openedDepth]

end Reader

end SelectCypher
