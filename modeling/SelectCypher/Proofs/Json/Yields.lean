import SelectCypher.Json.Decoder

namespace SelectCypher.Json.Decoder

/-!
# What is read meets a condition

`Yields` says of a decoder that every value it reads meets a condition, from whatever
tokens it reads it.  The rules follow the ways to put decoders together; a decoder
inside a bracket may use that one bracket fewer is allowed there.
-/

/-- Every value that a decoder reads meets a condition. -/
structure Yields
    {α : Type}
    (meets : α → Prop)
    (decoder : Decoder α) :
    Prop where
  of_run :
    ∀ {tokens rest : List Token} {value : α},
      decoder.run tokens = .ok (value, rest) → meets value

namespace Yields

variable {α β : Type}
variable {meets : α → Prop}

theorem anything (decoder : Decoder α) : Yields (fun _ => True) decoder where
  of_run _ := trivial

theorem mono
    {decoder : Decoder α}
    {reached : α → Prop}
    (yields : Yields reached decoder)
    (implies : ∀ value, reached value → meets value) :
    Yields meets decoder where
  of_run read := implies _ (yields.of_run read)

theorem pure
    {value : α}
    (met : meets value) :
    Yields meets (Pure.pure value) where
  of_run := by
    intro tokens rest found read
    cases read
    exact met

theorem fail (error : DecodeError) : Yields meets (Decoder.fail error) where
  of_run := by
    intro tokens rest found read
    cases read

theorem bind
    {reached : α → Prop}
    {meets : β → Prop}
    {first : Decoder α}
    {second : α → Decoder β}
    (yields : Yields reached first)
    (yieldsMore : ∀ value, reached value → Yields meets (second value)) :
    Yields meets (first >>= second) where
  of_run := by
    intro tokens rest result read
    cases firstRead : first.run tokens with
    | error error =>
        simp [Bind.bind, andThen, firstRead] at read
    | ok found =>
        obtain ⟨value, behind⟩ := found
        simp only [Bind.bind, andThen, firstRead] at read
        exact (yieldsMore value (yields.of_run firstRead)).of_run read

/-- What is read first does not matter. -/
theorem behind
    {meets : β → Prop}
    {first : Decoder α}
    {second : α → Decoder β}
    (yields : ∀ value, Yields meets (second value)) :
    Yields meets (first >>= second) :=
  (anything first).bind fun value _ => yields value

theorem ite
    {condition : Prop}
    [Decidable condition]
    {first second : Decoder α}
    (yields : Yields meets first)
    (otherYields : Yields meets second) :
    Yields meets (if condition then first else second) := by
  split
  · exact yields
  · exact otherYields

theorem nested
    {inside : Nat → Decoder α}
    {allowance : Nat}
    (yields : ∀ remaining, allowance = remaining + 1 → Yields meets (inside remaining)) :
    Yields meets (Decoder.nested allowance inside) := by
  cases allowance with
  | zero =>
      exact fail .malformed
  | succ remaining =>
      exact yields remaining rfl

theorem record
    {byName inOrder : Nat → Decoder α}
    {allowance : Nat}
    (yields : ∀ remaining, allowance = remaining + 1 → Yields meets (byName remaining))
    (yieldsInOrder :
      ∀ remaining, allowance = remaining + 1 → Yields meets (inOrder remaining)) :
    Yields meets (Decoder.record allowance byName inOrder) := by
  apply behind
  intro seen
  split
  · exact nested yields
  · exact nested yieldsInOrder
  · exact fail .malformed

theorem choice
    {bare : String → Option α}
    {content : Nat → String → Decoder α}
    {allowance : Nat}
    (bareMeets : ∀ tag value, bare tag = some value → meets value)
    (yields :
      ∀ remaining tag,
        allowance = remaining + 1 → Yields meets (content remaining tag)) :
    Yields meets (Decoder.choice allowance bare content) := by
  apply behind
  intro seen
  split
  · apply nested
    intro remaining fewer
    refine behind fun _ => behind fun tag => behind fun _ => ?_
    exact (yields remaining tag fewer).bind fun _ met => behind fun _ => pure met
  · refine behind fun tag => ?_
    split
    · rename_i value known
      exact pure (bareMeets tag value known)
    · exact fail .malformed

theorem optional
    {decoder : Decoder α}
    (yields : Yields meets decoder) :
    Yields (fun value? => ∀ value ∈ value?, meets value) (Decoder.optional decoder) := by
  apply behind
  intro seen
  apply ite
  · exact behind fun _ => pure (by simp)
  · exact yields.bind fun value met => pure (by simpa using met)

theorem required
    {value? : Option α}
    (met : ∀ value ∈ value?, meets value) :
    Yields meets (Decoder.required value?) := by
  cases value? with
  | none =>
      exact fail .malformed
  | some value =>
      exact pure (met value rfl)

theorem once
    {known? : Option α}
    {decoder : Decoder α}
    (yields : Yields meets decoder) :
    Yields (fun value? => ∀ value ∈ value?, meets value)
      (Decoder.once known? decoder) := by
  cases known? with
  | none =>
      exact yields.bind fun value met => pure (by simpa using met)
  | some known =>
      exact fail .malformed

/-- Members keep what is known up to the end of an object. -/
theorem of_membersFrom
    {κ σ : Type}
    {meets : σ → Prop}
    {name? : Token → Option κ}
    {member : σ → κ → Decoder σ}
    (yields : ∀ known name, meets known → Yields meets (member known name))
    {known last : σ}
    {tokens rest : List Token}
    (met : meets known)
    (read : membersFrom name? member known tokens = .ok (last, rest)) :
    meets last := by
  fun_induction membersFrom name? member known tokens with
  | case1 =>
      cases read
  | case2 known first later name named next more memberRead inductionHypothesis =>
      exact inductionHypothesis ((yields known name met).of_run memberRead) read
  | case3 known first later name named next more memberRead =>
      cases read
      exact (yields known name met).of_run memberRead
  | case4 =>
      cases read
  | case5 =>
      cases read
  | case6 =>
      cases read

theorem fields
    {σ : Type}
    {meets : σ → Prop}
    {member : σ → String → Decoder σ}
    {known : σ}
    (met : meets known)
    (yields : ∀ known name, meets known → Yields meets (member known name)) :
    Yields meets (Decoder.fields member known) where
  of_run := by
    intro tokens rest last read
    simp only [Decoder.fields, members] at read
    split at read
    · cases read
      exact met
    · exact of_membersFrom yields met read
    · cases read

end Yields

end SelectCypher.Json.Decoder
