import SelectCypher.Proofs.Json.Reads

namespace SelectCypher.Json.Decoder

/-!
# What is read is of a form

`Takes` says of a decoder that the tokens it reads as a value are of a form for that
value, whatever tokens it reads them from.  It is the other direction of `Reads`, and
has a rule for each way to put decoders together that asks nothing of what they see.
-/

/-- The tokens that a decoder reads as a value are of a form for that value. -/
structure Takes
    {α : Type}
    (form : List Token → α → Prop)
    (decoder : Decoder α) :
    Prop where
  of_run :
    ∀ {tokens rest : List Token} {value : α},
      decoder.run tokens = .ok (value, rest) →
      ∃ row, tokens = row ++ rest ∧ form row value

namespace Takes

variable {α β : Type}
variable {form : List Token → α → Prop}

theorem mono
    {decoder : Decoder α}
    {reached : List Token → α → Prop}
    (takes : Takes reached decoder)
    (implies : ∀ row value, reached row value → form row value) :
    Takes form decoder where
  of_run := by
    intro tokens rest value read
    obtain ⟨row, split, formed⟩ := takes.of_run read
    exact ⟨row, split, implies row value formed⟩

theorem pure
    {value : α}
    (formed : form [] value) :
    Takes form (Pure.pure value) where
  of_run := by
    intro tokens rest found read
    cases read
    exact ⟨[], rfl, formed⟩

theorem fail (error : DecodeError) : Takes form (Decoder.fail error) where
  of_run := by
    intro tokens rest found read
    cases read

/-- The row of a decoder made of two is made of their rows. -/
theorem bind
    {reached : List Token → α → Prop}
    {form : List Token → β → Prop}
    {first : Decoder α}
    {second : α → Decoder β}
    (takes : Takes reached first)
    (takesMore :
      ∀ row value,
        reached row value →
        Takes (fun more result => form (row ++ more) result) (second value)) :
    Takes form (first >>= second) where
  of_run := by
    intro tokens rest result read
    cases firstRead : first.run tokens with
    | error error =>
        simp [Bind.bind, andThen, firstRead] at read
    | ok found =>
        obtain ⟨value, behind⟩ := found
        obtain ⟨row, rfl, formed⟩ := takes.of_run firstRead
        rw [run_bind firstRead] at read
        obtain ⟨more, rfl, whole⟩ := (takesMore row value formed).of_run read
        exact ⟨row ++ more, (List.append_assoc row more rest).symm, whole⟩

/-- What is changed behind its tokens. -/
theorem andReturn
    {reached : List Token → α → Prop}
    {form : List Token → β → Prop}
    {decoder : Decoder α}
    {change : α → β}
    (takes : Takes reached decoder)
    (changes : ∀ row value, reached row value → form row (change value)) :
    Takes form (do return change (← decoder)) := by
  refine takes.bind fun row value formed => pure ?_
  rw [List.append_nil]
  exact changes row value formed

/-- A decoder that looks ahead, whatever it sees. -/
theorem peek
    {form : List Token → β → Prop}
    {second : Option Token → Decoder β}
    (takes : ∀ seen, Takes form (second seen)) :
    Takes form (Decoder.peek >>= second) where
  of_run := by
    intro tokens rest value read
    rw [run_peek] at read
    exact (takes tokens.head?).of_run read

theorem token
    {accept : Token → Option α}
    (accepted : ∀ found value, accept found = some value → form [found] value) :
    Takes form (Decoder.token accept) where
  of_run := by
    intro tokens rest value read
    simp only [Decoder.token] at read
    split at read
    · cases read
    · rename_i first more
      split at read
      · rename_i accepts
        cases read
        exact ⟨[first], rfl, accepted first _ accepts⟩
      · cases read

/-- A row that begins with a given token. -/
theorem behindMark
    {form : List Token → β → Prop}
    {expected : Token}
    {second : Unit → Decoder β}
    (takes : Takes (fun more result => form (expected :: more) result) (second ())) :
    Takes form (Decoder.mark expected >>= second) := by
  have marked :
      Takes (fun row (_ : Unit) => row = [expected]) (Decoder.mark expected) := by
    refine token fun found value accepts => ?_
    split at accepts
    · rename_i same
      rw [same]
    · cases accepts
  refine marked.bind fun row value same => ?_
  rw [same]
  exact takes

theorem ite
    {condition : Prop}
    [Decidable condition]
    {first second : Decoder α}
    (takes : Takes form first)
    (otherTakes : Takes form second) :
    Takes form (if condition then first else second) := by
  split
  · exact takes
  · exact otherTakes

/-- A value that may be missing. -/
theorem optional
    {decoder : Decoder α}
    {form : List Token → Option α → Prop}
    (missing : form [.null] none)
    (takes : Takes (fun row value => form row (some value)) decoder) :
    Takes form (Decoder.optional decoder) := by
  refine peek fun seen => ite ?_ ?_
  · exact behindMark (pure missing)
  · exact takes.andReturn fun row value formed => formed

/-- A field that was not known before. -/
theorem once
    {known? : Option α}
    {decoder : Decoder α}
    {form : List Token → Option α → Prop}
    (takes : Takes (fun row value => known? = none → form row (some value)) decoder) :
    Takes form (Decoder.once known? decoder) := by
  cases known? with
  | none =>
      exact takes.andReturn fun row value formed => formed rfl
  | some known =>
      exact fail .malformed

theorem record
    {byName inOrder : Nat → Decoder α}
    {allowance : Nat}
    (takes : ∀ remaining, Takes form (byName remaining))
    (takesInOrder : ∀ remaining, Takes form (inOrder remaining)) :
    Takes form (Decoder.record allowance byName inOrder) := by
  refine peek fun seen => ?_
  cases allowance with
  | zero =>
      split <;> exact fail .malformed
  | succ remaining =>
      split
      · exact takes remaining
      · exact takesInOrder remaining
      · exact fail .malformed

/-! ### Objects and arrays -/

theorem of_itemsFrom
    {item : Decoder α}
    (takes : Takes form item)
    {read values : List α}
    {tokens rest : List Token}
    (found : itemsFrom item read tokens = .ok (values, rest)) :
    ∃ items,
      items ≠ [] ∧
        tokens = separated items ++ .closeArray :: rest ∧
          ∀ row ∈ items, ∃ value, form row value := by
  fun_induction itemsFrom item read tokens with
  | case1 read tokens value later itemRead inductionHypothesis =>
      obtain ⟨row, rfl, formed⟩ := takes.of_run itemRead
      obtain ⟨items, someItems, rfl, allFormed⟩ := inductionHypothesis found
      refine ⟨row :: items, by simp, ?_, ?_⟩
      · rw [separated_cons row someItems, List.append_assoc]
        rfl
      · rw [List.forall_mem_cons]
        exact ⟨⟨value, formed⟩, allFormed⟩
  | case2 read tokens value later itemRead =>
      cases found
      obtain ⟨row, rfl, formed⟩ := takes.of_run itemRead
      exact ⟨[row], by simp, rfl, by simpa using ⟨value, formed⟩⟩
  | case3 =>
      cases found
  | case4 =>
      cases found

/-- An array of rows that are each of the form of an item. -/
theorem list
    {item : Decoder α}
    (takes : Takes form item) :
    Takes
      (fun row _ => ∃ items, row = array items ∧ ∀ row ∈ items, ∃ value, form row value)
      (Decoder.list item) where
  of_run := by
    intro tokens rest values read
    simp only [Decoder.list] at read
    split at read
    · cases read
      exact ⟨[.openArray, .closeArray], rfl, [], rfl, by simp⟩
    · obtain ⟨items, -, rfl, formed⟩ := of_itemsFrom takes read
      refine ⟨array items, ?_, items, rfl, formed⟩
      simp [array]
    · cases read

section Members

variable {κ σ : Type}
variable {name? : Token → Option κ}
variable {member : σ → κ → Decoder σ}
variable {form : σ → κ → List Token → σ → Prop}

theorem of_membersFrom
    (takes : ∀ known name, Takes (form known name) (member known name))
    {known last : σ}
    {tokens rest : List Token}
    (found : membersFrom name? member known tokens = .ok (last, rest)) :
    ∃ members,
      members ≠ [] ∧
        tokens = separated (members.map written) ++ .closeObject :: rest ∧
          Members name? form known members last := by
  fun_induction membersFrom name? member known tokens with
  | case1 =>
      cases found
  | case2 known first later name named next more memberRead inductionHypothesis =>
      obtain ⟨row, rfl, formed⟩ := (takes known name).of_run memberRead
      obtain ⟨members, someMembers, rfl, chain⟩ := inductionHypothesis found
      refine ⟨(first, row) :: members, by simp, ?_, .next named formed chain⟩
      rw [List.map_cons, separated_cons _ (by simpa using someMembers)]
      simp [written]
  | case3 known first later name named next more memberRead =>
      cases found
      obtain ⟨row, rfl, formed⟩ := (takes known name).of_run memberRead
      exact ⟨[(first, row)], by simp, rfl, .next named formed .none⟩
  | case4 =>
      cases found
  | case5 =>
      cases found
  | case6 =>
      cases found

/-- An object whose members lead from what is known before it to what is known behind. -/
theorem members
    (takes : ∀ known name, Takes (form known name) (member known name))
    (known : σ) :
    Takes
      (fun row last =>
        ∃ members,
          row = .openObject :: separated (members.map written) ++ [.closeObject] ∧
            Members name? form known members last)
      (Decoder.members name? member known) where
  of_run := by
    intro tokens rest last read
    simp only [Decoder.members] at read
    split at read
    · cases read
      exact ⟨[.openObject, .closeObject], rfl, [], rfl, .none⟩
    · obtain ⟨members, -, rfl, chain⟩ := of_membersFrom takes read
      refine ⟨_, ?_, members, rfl, chain⟩
      simp
    · cases read

end Members

end Takes

end SelectCypher.Json.Decoder
