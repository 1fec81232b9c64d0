import SelectCypher.Proofs.Json.Takes

namespace SelectCypher.Json

/-!
# Any value

The value of a member that nobody asks for is passed over: a scalar, or an array or an
object of values.  The number of its tokens bounds how deep its brackets stand inside
each other, so that many levels are enough to pass over it.
-/

namespace Token

/-- Whether a token is a value by itself. -/
def isScalar : Token → Bool
  | null | bool _ | number _ | string _ | brokenString => true
  | _ => false

/-- Whether a token is a string, be it one that has a content or not. -/
def isString : Token → Bool
  | string _ | brokenString => true
  | _ => false

end Token

/-- A row of tokens that is a value. -/
inductive IsValue : List Token → Prop
  | scalar {token : Token} :
      token.isScalar = true →
      IsValue [token]
  | array {items : List (List Token)} :
      (∀ item ∈ items, IsValue item) →
      IsValue (array items)
  | object {members : List (Token × List Token)} :
      (∀ member ∈ members, member.1.isString = true) →
      (∀ member ∈ members, IsValue member.2) →
      IsValue (.openObject :: separated (members.map Decoder.written) ++ [.closeObject])

/-- A value begins with a token that ends no array. -/
theorem IsValue.opens
    {row : List Token}
    (value : IsValue row) :
    ∃ first more, row = first :: more ∧ first ≠ .closeArray := by
  cases value with
  | scalar scalar =>
      refine ⟨_, _, rfl, ?_⟩
      rintro rfl
      cases scalar
  | array =>
      exact ⟨_, _, rfl, by simp⟩
  | object =>
      exact ⟨_, _, rfl, by simp⟩

/-- A row between commas is no longer than all of them. -/
theorem length_le_separated
    {row : List Token}
    {rows : List (List Token)}
    (member : row ∈ rows) :
    row.length ≤ (separated rows).length := by
  induction rows with
  | nil =>
      cases member
  | cons first others inductionHypothesis =>
      cases others with
      | nil =>
          rw [List.mem_singleton.mp member]
          exact Nat.le_refl _
      | cons second more =>
          rw [Decoder.separated_cons first (by simp), List.length_append,
            List.length_cons]
          rcases List.mem_cons.mp member with rfl | inOthers
          · omega
          · have shorter := inductionHypothesis inOthers
            omega

namespace Decoder

theorem skippedName?_eq_some_iff
    {key : Token} :
    skippedName? key = some () ↔ key.isString = true := by
  cases key <;> simp [skippedName?, Token.isString]

/-- Members that are passed over have strings for names and values. -/
theorem Members.skipped
    {members : List (Token × List Token)}
    {known last : Unit}
    (chain : Members skippedName? (fun _ _ row _ => IsValue row) known members last) :
    (∀ member ∈ members, member.1.isString = true) ∧
      ∀ member ∈ members, IsValue member.2 := by
  induction chain with
  | none =>
      simp
  | next named value _ inductionHypothesis =>
      simp only [List.forall_mem_cons]
      exact ⟨⟨skippedName?_eq_some_iff.mp named, inductionHypothesis.1⟩,
        value, inductionHypothesis.2⟩

/-- Only a value is passed over. -/
theorem skipWithin_takes (depth : Nat) :
    Takes (fun row _ => IsValue row) (skipWithin depth) := by
  induction depth with
  | zero =>
      exact .fail .malformed
  | succ depth inductionHypothesis =>
      refine Takes.peek fun seen => ?_
      split
      · refine (Takes.list inductionHypothesis).andReturn ?_
        rintro row _ ⟨items, rfl, values⟩
        exact .array fun item member => (values item member).elim fun _ value => value
      · refine (Takes.members (fun _ _ => inductionHypothesis) ()).mono ?_
        rintro row _ ⟨members, rfl, chain⟩
        exact .object chain.skipped.1 chain.skipped.2
      · refine Takes.token fun found value accepts => .scalar ?_
        cases found <;> first | rfl | cases accepts

/-- Members whose values are passed over are passed over. -/
theorem members_skipWithin
    {depth : Nat}
    {members : List (Token × List Token)}
    (names : ∀ member ∈ members, member.1.isString = true)
    (reads : ∀ member ∈ members, Reads (skipWithin depth) member.2 ()) :
    Members skippedName? (fun _ _ row later => Reads (skipWithin depth) row later) ()
      members () := by
  induction members with
  | nil =>
      exact .none
  | cons member others inductionHypothesis =>
      simp only [List.forall_mem_cons] at names reads
      exact .next (skippedName?_eq_some_iff.mpr names.1) reads.1
        (inductionHypothesis names.2 reads.2)

/-- A value is passed over wherever as many levels are allowed as it has tokens. -/
theorem skipWithin_reads
    {row : List Token}
    {depth : Nat}
    (value : IsValue row)
    (enough : row.length ≤ depth) :
    Reads (skipWithin depth) row () := by
  induction value generalizing depth with
  | @scalar token scalar =>
      obtain ⟨remaining, rfl⟩ := Nat.exists_eq_add_of_le' enough
      apply Reads.peek
      cases token with
      | openObject | closeObject | openArray | closeArray | comma | colon | unreadable =>
          cases scalar
      | _ =>
          exact Reads.token rfl
  | @array items values inductionHypothesis =>
      rw [array, List.length_append, List.length_cons] at enough
      obtain ⟨remaining, rfl⟩ : ∃ remaining, depth = remaining + 1 :=
        Nat.exists_eq_add_one_of_ne_zero (by omega)
      have itemsRead : ∀ item ∈ items, Reads (skipWithin remaining) item () := by
        intro item member
        have shorter := length_le_separated member
        exact inductionHypothesis item member (by omega)
      have reads :=
        Reads.items (items.map fun item => (item, ()))
          (List.forall_mem_map.mpr itemsRead)
          (List.forall_mem_map.mpr fun item member => (values item member).opens)
      rw [List.map_map, show Prod.fst ∘ (fun item => (item, ())) = id from rfl,
        List.map_id] at reads
      exact Reads.peek reads.andReturn
  | @object members names values inductionHypothesis =>
      rw [List.length_append, List.length_cons] at enough
      obtain ⟨remaining, rfl⟩ : ∃ remaining, depth = remaining + 1 :=
        Nat.exists_eq_add_one_of_ne_zero (by omega)
      have membersRead :
          ∀ member ∈ members, Reads (skipWithin remaining) member.2 () := by
        intro member inMembers
        have shorter := length_le_separated (List.mem_map_of_mem (f := written) inMembers)
        simp only [written, List.length_cons] at shorter
        exact inductionHypothesis member inMembers (by omega)
      have reads := members_skipWithin names membersRead
      exact Reads.peek (Reads.members reads rfl)

/-- A decoder that passes over a value takes values only. -/
theorem skip_takes : Takes (fun row _ => IsValue row) skip where
  of_run read :=
    (skipWithin_takes _).of_run read

/-- Any value is passed over. -/
theorem skip_reads
    {row : List Token}
    (value : IsValue row) :
    Reads skip row () :=
  fun rest => skipWithin_reads value (by simp) rest

end Decoder

end SelectCypher.Json
