import SelectCypher.Proofs.Grammar.Place

namespace SelectCypher.Grammar

/-!
# The first failure of a token stream

`walk` follows a row of tokens from place to place under a limit on nesting, and
`verdict` adds the lexical error behind the row.  A walk succeeds exactly if its
kinds have a path and its parentheses keep within the limit; otherwise it fails
at the first token that breaks one of the two.
-/

namespace Place

/-- The place behind one token, or what is wrong with the token. -/
def step
    (limit : Nat)
    (place : Place)
    (token : Token) :
    Except QueryError Place :=
  match place.next? token.kind with
  | none =>
      .error (.grammar (.ofToken place.expected token))
  | some next =>
      if token.kind = .leftParen ∧ limit ≤ place.depth then
        .error (.tooDeep token.position limit)
      else
        .ok next

/-- The place behind a row of tokens, or what is wrong with the first bad one. -/
def walk (limit : Nat) : Place → List Token → Except QueryError Place
  | place, [] =>
      .ok place
  | place, token :: rest =>
      (place.step limit token).bind fun next => next.walk limit rest

/-- The place behind a stream, or its first failure in reading order. -/
def verdict
    (limit : Nat)
    (place : Place)
    (stream : TokenStream) :
    Except QueryError Place :=
  (place.walk limit stream.tokens).bind fun reached =>
    match stream.failure? with
    | none =>
        .ok reached
    | some failure =>
        .error (.lexical failure)

theorem step_eq_ok_iff
    {limit : Nat}
    {place next : Place}
    {token : Token} :
    place.step limit token = .ok next ↔
      place.next? token.kind = some next ∧
        (token.kind = .leftParen → place.depth < limit) := by
  unfold step
  cases place.next? token.kind with
  | none =>
      simp
  | some reached =>
      by_cases tooDeep : token.kind = .leftParen ∧ limit ≤ place.depth
      · simp only [tooDeep, and_self, ↓reduceIte, reduceCtorEq, forall_const,
          false_iff, not_and]
        omega
      · simp only [tooDeep, ↓reduceIte, Except.ok.injEq, Option.some.injEq,
          iff_self_and]
        intro _ isOpening
        have notLimit := mt (And.intro isOpening) tooDeep
        omega

/-- A token fails because no path goes on with it, or because it nests too deep. -/
theorem step_eq_error
    {limit : Nat}
    {place : Place}
    {token : Token}
    {failure : QueryError}
    (fails : place.step limit token = .error failure) :
    (place.next? token.kind = none ∧
        failure = .grammar (.ofToken place.expected token)) ∨
      ((place.next? token.kind).isSome = true ∧ token.kind = .leftParen ∧
        limit ≤ place.depth ∧ failure = .tooDeep token.position limit) := by
  unfold step at fails
  cases leads : place.next? token.kind with
  | none =>
      simp only [leads, Except.error.injEq] at fails
      exact .inl ⟨rfl, fails.symm⟩
  | some reached =>
      simp only [leads] at fails
      split at fails
      · rename_i tooDeep
        simp only [Except.error.injEq] at fails
        exact .inr ⟨rfl, tooDeep.1, tooDeep.2, fails.symm⟩
      · simp at fails

@[simp] theorem walk_nil
    (limit : Nat)
    (place : Place) :
    place.walk limit [] = .ok place :=
  rfl

@[simp] theorem walk_cons
    (limit : Nat)
    (place : Place)
    (token : Token)
    (rest : List Token) :
    place.walk limit (token :: rest) =
      (place.step limit token).bind fun next => next.walk limit rest :=
  rfl

/-- A walk succeeds if its first step does and the rest of it does from there. -/
theorem walk_cons_eq_ok
    {limit : Nat}
    {place reached : Place}
    {token : Token}
    {rest : List Token} :
    place.walk limit (token :: rest) = .ok reached ↔
      ∃ next,
        place.step limit token = .ok next ∧ next.walk limit rest = .ok reached := by
  rw [walk_cons]
  cases place.step limit token with
  | error failure =>
      simp [Except.bind]
  | ok next =>
      simp [Except.bind]

theorem walk_append
    (limit : Nat)
    (place : Place)
    (first second : List Token) :
    place.walk limit (first ++ second) =
      (place.walk limit first).bind fun middle => middle.walk limit second := by
  induction first generalizing place with
  | nil =>
      rfl
  | cons token rest inductionHypothesis =>
      simp only [List.cons_append, walk_cons]
      cases place.step limit token with
      | error failure =>
          rfl
      | ok next =>
          exact inductionHypothesis next

/-- A walk of two parts has a first part that succeeds. -/
theorem walk_append_eq_ok
    {limit : Nat}
    {place reached : Place}
    {first second : List Token}
    (walked : place.walk limit (first ++ second) = .ok reached) :
    ∃ middle,
      place.walk limit first = .ok middle ∧
        middle.walk limit second = .ok reached := by
  rw [walk_append] at walked
  cases before : place.walk limit first with
  | error failure =>
      simp [before, Except.bind] at walked
  | ok middle =>
      rw [before] at walked
      exact ⟨middle, rfl, walked⟩

/-- A walk that fails does so at one token, which it reaches. -/
theorem walk_eq_error
    {limit : Nat}
    {place : Place}
    {tokens : List Token}
    {failure : QueryError}
    (fails : place.walk limit tokens = .error failure) :
    ∃ before token behind middle,
      tokens = before ++ token :: behind ∧
        place.walk limit before = .ok middle ∧
        middle.step limit token = .error failure := by
  induction tokens generalizing place with
  | nil =>
      simp at fails
  | cons token rest inductionHypothesis =>
      rw [walk_cons] at fails
      cases stepped : place.step limit token with
      | error cause =>
          have same : cause = failure := by
            simpa [stepped, Except.bind] using fails
          subst same
          exact ⟨[], token, rest, place, rfl, rfl, stepped⟩
      | ok next =>
          rw [stepped] at fails
          obtain ⟨before, bad, behind, middle, shape, walked, badStep⟩ :=
            inductionHypothesis fails
          refine ⟨token :: before, bad, behind, middle, by simp [shape], ?_,
            badStep⟩
          rw [walk_cons, stepped]
          exact walked

/-! ## Paths and nesting -/

/-- A parenthesis changes the depth by one, and no other kind changes it. -/
theorem next?_depth
    {place next : Place}
    {kind : TokenKind}
    (leads : place.next? kind = some next) :
    place.depth + (if kind = .leftParen then 1 else 0) =
      next.depth + (if kind = .rightParen then 1 else 0) := by
  have listed :
      ∀ exit ∈ place.exits,
        place.depth + (if exit.1 = .leftParen then 1 else 0) =
          exit.2.depth + (if exit.1 = .rightParen then 1 else 0) := by
    cases place with
    | behindOperand depth =>
        cases depth <;> simp [exits, Place.depth]
    | _ =>
        simp [exits, Place.depth, TokenKind.operators, TokenKind.literals,
          Operator.all]
  exact listed _ (mem_exits_of_next? leads)

theorem path?_depth
    {place reached : Place}
    {kinds : List TokenKind}
    (path : place.path? kinds = some reached) :
    place.depth + kinds.countP (· = .leftParen) =
      reached.depth + kinds.countP (· = .rightParen) := by
  induction kinds generalizing place with
  | nil =>
      simp_all
  | cons kind rest inductionHypothesis =>
      rw [path?_cons, Option.bind_eq_some_iff] at path
      obtain ⟨next, leads, path⟩ := path
      have head := next?_depth leads
      have tail := inductionHypothesis path
      simp only [List.countP_cons, decide_eq_true_eq]
      omega

/-- The depth of a place is the number of parentheses open on the way to it. -/
theorem depth_of_path?
    {reached : Place}
    {tokens : List Token}
    (path : opening.path? (tokens.map Token.kind) = some reached) :
    reached.depth = unclosed tokens := by
  have counted := path?_depth path
  simp only [show opening.depth = 0 from rfl, List.countP_map,
    Function.comp_def] at counted
  unfold unclosed
  omega

theorem path?_of_walk
    {limit : Nat}
    {place reached : Place}
    {tokens : List Token}
    (walked : place.walk limit tokens = .ok reached) :
    place.path? (tokens.map Token.kind) = some reached := by
  induction tokens generalizing place with
  | nil =>
      simpa using walked
  | cons token rest inductionHypothesis =>
      obtain ⟨next, stepped, walked⟩ := walk_cons_eq_ok.mp walked
      rw [List.map_cons, path?_cons, (step_eq_ok_iff.mp stepped).1]
      exact inductionHypothesis walked

/-- A walk never reaches a place deeper than the limit. -/
theorem depth_le_of_walk
    {limit : Nat}
    {place reached : Place}
    {tokens : List Token}
    (shallow : place.depth ≤ limit)
    (walked : place.walk limit tokens = .ok reached) :
    reached.depth ≤ limit := by
  induction tokens generalizing place with
  | nil =>
      cases walked
      exact shallow
  | cons token rest inductionHypothesis =>
      obtain ⟨next, stepped, walked⟩ := walk_cons_eq_ok.mp walked
      obtain ⟨leads, within⟩ := step_eq_ok_iff.mp stepped
      refine inductionHypothesis ?_ walked
      have changed := next?_depth leads
      by_cases isOpening : token.kind = .leftParen
      · have room := within isOpening
        simp only [isOpening, ↓reduceIte] at changed
        omega
      · simp only [isOpening, ↓reduceIte] at changed
        omega

/-- What has been walked from the opening place is nested within the limit. -/
theorem nestedWithin_of_walk
    {limit : Nat}
    {reached : Place}
    {tokens : List Token}
    (walked : opening.walk limit tokens = .ok reached) :
    NestedWithin limit tokens := by
  rintro before paren behind rfl isOpening
  obtain ⟨middle, first, second⟩ := walk_append_eq_ok walked
  obtain ⟨next, stepped, -⟩ := walk_cons_eq_ok.mp second
  rw [← depth_of_path? (path?_of_walk first)]
  exact (step_eq_ok_iff.mp stepped).2 isOpening

/-- A walk along a path fails only at a parenthesis, the first that nests too deep. -/
theorem firstTooDeep_of_walk_eq_error
    {limit : Nat}
    {reached : Place}
    {tokens : List Token}
    {failure : QueryError}
    (path : opening.path? (tokens.map Token.kind) = some reached)
    (fails : opening.walk limit tokens = .error failure) :
    ∃ before paren behind,
      tokens = before ++ paren :: behind ∧ FirstTooDeep limit before paren ∧
        failure = .tooDeep paren.position limit := by
  obtain ⟨before, paren, behind, middle, rfl, walked, fails⟩ :=
    walk_eq_error fails
  have passed := path?_of_walk walked
  rcases step_eq_error fails with ⟨blocked, -⟩ | ⟨-, isOpening, deep, cause⟩
  · -- A path that goes on behind the token cannot be blocked by its kind.
    simp [path?_append, passed, blocked] at path
  · refine ⟨before, paren, behind, rfl, ⟨isOpening, ?_, ?_⟩, cause⟩
    · exact nestedWithin_of_walk walked
    · have shallow := depth_le_of_walk (Nat.zero_le limit) walked
      rw [← depth_of_path? passed]
      omega

/-- A walk from the opening place succeeds along a path nested within the limit. -/
theorem walk_eq_ok_iff
    {limit : Nat}
    {reached : Place}
    {tokens : List Token} :
    opening.walk limit tokens = .ok reached ↔
      opening.path? (tokens.map Token.kind) = some reached ∧
        NestedWithin limit tokens := by
  constructor
  · intro walked
    exact ⟨path?_of_walk walked, nestedWithin_of_walk walked⟩
  · rintro ⟨path, within⟩
    cases walked : opening.walk limit tokens with
    | ok arrived =>
        have same := path?_of_walk walked
        rw [path] at same
        cases same
        rfl
    | error failure =>
        obtain ⟨before, paren, behind, rfl, tooDeep, -⟩ :=
          firstTooDeep_of_walk_eq_error path walked
        have small := within before paren behind rfl tooDeep.isOpening
        have exact := tooDeep.exceeds
        omega

end Place

end SelectCypher.Grammar
