import SelectCypher.Proofs.Json.Scan

namespace SelectCypher.Json

/-!
# How deep brackets stand inside each other

`nesting` counts the brackets that stand inside each other in a row of tokens.  What
is written for a value opens and closes its own brackets, so it adds its own nesting
to the brackets around it and leaves their number as it is.
-/

/-- The most brackets open at once, some being open in front of the tokens. -/
def nestingFrom (depth : Nat) : List Token → Nat
  | [] =>
      depth
  | token :: rest =>
      if token.opens then
        max depth (nestingFrom (depth + 1) rest)
      else if token.closes then
        max depth (nestingFrom (depth - 1) rest)
      else
        max depth (nestingFrom depth rest)

/-- The number of objects and arrays that stand inside each other. -/
def nesting (tokens : List Token) : Nat :=
  nestingFrom 0 tokens

theorem le_nestingFrom
    (depth : Nat)
    (tokens : List Token) :
    depth ≤ nestingFrom depth tokens := by
  cases tokens with
  | nil =>
      exact Nat.le_refl _
  | cons token rest =>
      unfold nestingFrom
      split
      · exact Nat.le_max_left _ _
      · split <;> exact Nat.le_max_left _ _

/--
Tokens that are written for a value, or for a part of one, with so many of their own
brackets inside each other.
-/
structure Written
    (own : Nat)
    (tokens : List Token) :
    Prop where
  endThemselves : ∀ token ∈ tokens, token.endsItself = true
  nests :
    ∀ depth rest,
      nestingFrom depth (tokens ++ rest) =
        max (depth + own) (nestingFrom depth rest)

namespace Written

variable {own other : Nat}
variable {tokens more : List Token}

theorem nothing : Written 0 [] where
  endThemselves := by
    simp
  nests depth rest :=
    (Nat.max_eq_right (le_nestingFrom depth rest)).symm

/-- A token other than a bracket. -/
theorem single
    {token : Token}
    (endsItself : token.endsItself = true)
    (notOpening : token.opens = false)
    (notClosing : token.closes = false) :
    Written 0 [token] where
  endThemselves := by
    simpa using endsItself
  nests depth rest := by
    simp [nestingFrom, notOpening, notClosing]

theorem append
    (written : Written own tokens)
    (otherWritten : Written other more) :
    Written (max own other) (tokens ++ more) where
  endThemselves := by
    rw [List.forall_mem_append]
    exact ⟨written.endThemselves, otherWritten.endThemselves⟩
  nests depth rest := by
    rw [List.append_assoc, written.nests, otherWritten.nests]
    omega

/-- Tokens inside a pair of brackets. -/
theorem enclosed
    {opening closing : Token}
    (written : Written own tokens)
    (opens : opening.opens = true)
    (closes : closing.closes = true) :
    Written (own + 1) (opening :: tokens ++ [closing]) where
  endThemselves := by
    have openingEnds : opening.endsItself = true := by
      cases opening <;> simp_all [Token.opens, Token.endsItself]
    have closingEnds : closing.endsItself = true := by
      cases closing <;> simp_all [Token.closes, Token.endsItself]
    rw [List.forall_mem_append, List.forall_mem_cons, List.forall_mem_singleton]
    exact ⟨⟨openingEnds, written.endThemselves⟩, closingEnds⟩
  nests depth rest := by
    have notOpening : closing.opens = false := by
      cases closing <;> simp_all [Token.closes, Token.opens]
    simp only [List.cons_append, List.append_assoc, List.nil_append]
    rw [nestingFrom, if_pos opens, written.nests, nestingFrom, if_neg (by simp [notOpening]),
      if_pos closes, Nat.add_sub_cancel]
    omega

/-- A row behind another one and a comma. -/
theorem separate
    (written : Written own tokens)
    (otherWritten : Written other more) :
    Written (max own other) (tokens ++ .comma :: more) := by
  have comma : Written 0 [Token.comma] := single rfl rfl rfl
  have whole := written.append (comma.append otherWritten)
  rwa [Nat.zero_max] at whole

/-- A member of an object. -/
theorem member
    (name : String)
    (written : Written own tokens) :
    Written own (.string name :: .colon :: tokens) := by
  have nameWritten : Written 0 [Token.string name] := single rfl rfl rfl
  have colon : Written 0 [Token.colon] := single rfl rfl rfl
  have whole := nameWritten.append (colon.append written)
  rwa [Nat.zero_max, Nat.zero_max] at whole

/-- A value inside an object that names its kind. -/
theorem tagged
    (tag : String)
    (written : Written own tokens) :
    Written (own + 1) (Json.tagged tag tokens) :=
  (written.member tag).enclosed rfl rfl

/-- The nesting of what is written for a value is its own. -/
theorem nesting_eq
    (written : Written own tokens) :
    nesting tokens = own := by
  have counted := written.nests 0 []
  rwa [List.append_nil, Nat.zero_add, nestingFrom, Nat.max_zero] at counted

end Written

end SelectCypher.Json
