import SelectCypher.Json.Limits
import SelectCypher.Proofs.Json.Values

namespace SelectCypher.Limits

open Json (IsValue)
open Json.Decoder (Reads Takes)

/-!
# What a configuration says

A configuration is an object, in which each limit stands by its name at most once and
anything may stand under other names, or an array, from whose end limits may be left
out.  A text is read as limits exactly if it is one, and then as what it says with the
defaults for what it leaves out.
-/

/-- A row that is a number below 2^64. -/
inductive IsWord : List Json.Token → Nat → Prop
  | number {text : String} {value : Nat} :
      Text.word? text.toList = some value →
      IsWord [.number text] value

/-- A row that is a length limit, or says that there is none. -/
inductive IsLength : List Json.Token → Option Nat → Prop
  | unlimited :
      IsLength [.null] none
  | limited {row : List Json.Token} {limit : Nat} :
      IsWord row limit →
      IsLength row (some limit)

/--
A field behind the rows that give it: as it was if there is none, and as the row says
if there is one and the field was not known.
-/
inductive Field
    {α : Type}
    (form : List Json.Token → α → Prop) :
    Option α → List (List Json.Token) → Option α → Prop
  | kept {known? : Option α} :
      Field form known? [] known?
  | given {row : List Json.Token} {value : α} :
      form row value →
      Field form none [row] (some value)

/-- The values of the members with a name. -/
def valuesOf (name : String) (members : List (String × List Json.Token)) :
    List (List Json.Token) :=
  (members.filter (·.1 = name)).map Prod.snd

/-- What is known behind some members of a configuration, if they are well-formed. -/
structure Gives
    (known : Known)
    (members : List (String × List Json.Token))
    (last : Known) :
    Prop where
  maxDepth : Field IsWord known.maxDepth? (valuesOf "max_depth" members) last.maxDepth?
  maxLength :
    Field IsLength known.maxLength? (valuesOf "max_query_length" members) last.maxLength?
  others :
    ∀ member ∈ members,
      member.1 ≠ "max_depth" → member.1 ≠ "max_query_length" → IsValue member.2

/-- A row that is a configuration, and the limits it gives. -/
inductive Configures : List Json.Token → Known → Prop
  | byName {members : List (String × List Json.Token)} {known : Known} :
      Gives {} members known →
      Configures (Json.object members) known
  | nothing :
      Configures (Json.array []) {}
  | depth {row : List Json.Token} {maxDepth : Nat} :
      IsWord row maxDepth →
      Configures (Json.array [row]) { maxDepth? := some maxDepth }
  | both {row other : List Json.Token} {maxDepth : Nat} {maxLength? : Option Nat} :
      IsWord row maxDepth →
      IsLength other maxLength? →
      Configures (Json.array [row, other])
        { maxDepth? := some maxDepth, maxLength? := some maxLength? }

/-! ## Values of the limits -/

theorem word_takes : Takes IsWord Json.Decoder.word := by
  refine Takes.token fun found value accepts => ?_
  split at accepts
  · exact .number accepts
  · cases accepts

theorem IsWord.reads
    {row : List Json.Token}
    {value : Nat}
    (word : IsWord row value) :
    Reads Json.Decoder.word row value := by
  cases word with
  | number below =>
      exact Reads.token below

theorem length_takes : Takes IsLength (Json.Decoder.optional Json.Decoder.word) :=
  Takes.optional .unlimited (word_takes.mono fun _ _ word => .limited word)

theorem IsLength.reads
    {row : List Json.Token}
    {length? : Option Nat}
    (length : IsLength row length?) :
    Reads (Json.Decoder.optional Json.Decoder.word) row length? := by
  cases length with
  | unlimited =>
      exact Reads.optional_null _
  | limited word =>
      have reads := word.reads
      cases word with
      | number below =>
          exact Reads.optional reads (by simp)

/-! ## Members -/

theorem Field.of_known
    {α : Type}
    {form : List Json.Token → α → Prop}
    {value : α}
    {rows : List (List Json.Token)}
    {last? : Option α}
    (field : Field form (some value) rows last?) :
    rows = [] ∧ last? = some value := by
  cases field
  exact ⟨rfl, rfl⟩

/-- A field that a row gives was not known, and no further row gives it. -/
theorem Field.of_cons
    {α : Type}
    {form : List Json.Token → α → Prop}
    {known? last? : Option α}
    {row : List Json.Token}
    {rows : List (List Json.Token)}
    (field : Field form known? (row :: rows) last?) :
    known? = none ∧ rows = [] ∧ ∃ value, form row value ∧ last? = some value := by
  cases field with
  | given formed =>
      exact ⟨rfl, rfl, _, formed, rfl⟩

theorem valuesOf_cons_same
    (name : String)
    (row : List Json.Token)
    (members : List (String × List Json.Token)) :
    valuesOf name ((name, row) :: members) = row :: valuesOf name members := by
  simp [valuesOf]

theorem valuesOf_cons_other
    {name other : String}
    (differs : other ≠ name)
    (row : List Json.Token)
    (members : List (String × List Json.Token)) :
    valuesOf name ((other, row) :: members) = valuesOf name members := by
  simp [valuesOf, differs]

namespace Gives

variable {known next last : Known}
variable {row : List Json.Token}
variable {members : List (String × List Json.Token)}

theorem nothing : Gives known [] known where
  maxDepth := .kept
  maxLength := .kept
  others := by
    simp

theorem consDepth
    {maxDepth : Nat}
    (unknown : known.maxDepth? = none)
    (word : IsWord row maxDepth)
    (gives : Gives { known with maxDepth? := some maxDepth } members last) :
    Gives known (("max_depth", row) :: members) last where
  maxDepth := by
    obtain ⟨noneGive, same⟩ := gives.maxDepth.of_known
    rw [unknown, valuesOf_cons_same, noneGive, same]
    exact .given word
  maxLength := by
    rw [valuesOf_cons_other (by decide)]
    exact gives.maxLength
  others := by
    rw [List.forall_mem_cons]
    exact ⟨fun differs => absurd rfl differs, gives.others⟩

theorem consLength
    {length? : Option Nat}
    (unknown : known.maxLength? = none)
    (length : IsLength row length?)
    (gives : Gives { known with maxLength? := some length? } members last) :
    Gives known (("max_query_length", row) :: members) last where
  maxDepth := by
    rw [valuesOf_cons_other (by decide)]
    exact gives.maxDepth
  maxLength := by
    obtain ⟨noneGive, same⟩ := gives.maxLength.of_known
    rw [unknown, valuesOf_cons_same, noneGive, same]
    exact .given length
  others := by
    rw [List.forall_mem_cons]
    exact ⟨fun _ differs => absurd rfl differs, gives.others⟩

theorem consOther
    {name : String}
    (notDepth : name ≠ "max_depth")
    (notLength : name ≠ "max_query_length")
    (value : IsValue row)
    (gives : Gives known members last) :
    Gives known ((name, row) :: members) last where
  maxDepth := by
    rw [valuesOf_cons_other notDepth]
    exact gives.maxDepth
  maxLength := by
    rw [valuesOf_cons_other notLength]
    exact gives.maxLength
  others := by
    rw [List.forall_mem_cons]
    exact ⟨fun _ _ => value, gives.others⟩

end Gives

/--
What one member does to what is known: in front of any members that lead on from there,
it is a member that leads to the same.
-/
theorem member_takes
    (known : Known)
    (name : String) :
    Takes
      (fun row next =>
        ∀ members last,
          Gives next members last → Gives known ((name, row) :: members) last)
      (member known name) := by
  unfold member
  split
  · refine Takes.andReturn (Takes.once ?_) fun _ _ field => field
    exact word_takes.mono fun row maxDepth word unknown members last gives =>
      gives.consDepth unknown word
  · refine Takes.andReturn (Takes.once ?_) fun _ _ field => field
    exact length_takes.mono fun row length? length unknown members last gives =>
      gives.consLength unknown length
  · rename_i notDepth notLength
    exact Json.Decoder.skip_takes.andReturn fun row _ value members last gives =>
      gives.consOther notDepth notLength value

/-- The members that are read say what is known behind them. -/
theorem gives_of_members
    {known last : Known}
    {members : List (Json.Token × List Json.Token)}
    (chain :
      Json.Decoder.Members Json.Decoder.stringContent?
        (fun known name row next =>
          ∀ members last,
            Gives next members last → Gives known ((name, row) :: members) last)
        known members last) :
    ∃ named : List (String × List Json.Token),
      members = named.map (fun member => (.string member.1, member.2)) ∧
        Gives known named last := by
  induction chain with
  | none =>
      exact ⟨[], rfl, .nothing⟩
  | @next known next last key name row others named leads _ inductionHypothesis =>
      obtain ⟨behind, rfl, gives⟩ := inductionHypothesis
      refine ⟨(name, row) :: behind, ?_, leads behind last gives⟩
      cases key with
      | string content =>
          cases named
          rfl
      | _ =>
          cases named

/-- Members are read as what they say. -/
theorem Gives.reads
    {known last : Known}
    {members : List (String × List Json.Token)}
    (gives : Gives known members last) :
    Reads.Fields member known members last := by
  induction members generalizing known with
  | nil =>
      obtain ⟨maxDepth, maxLength, -⟩ := gives
      cases known
      cases last
      cases maxDepth
      cases maxLength
      exact .none
  | cons first others inductionHypothesis =>
      obtain ⟨name, row⟩ := first
      obtain ⟨maxDepth, maxLength, values⟩ := gives
      rw [List.forall_mem_cons] at values
      by_cases isDepth : name = "max_depth"
      · subst isDepth
        rw [valuesOf_cons_same] at maxDepth
        rw [valuesOf_cons_other (by decide)] at maxLength
        obtain ⟨unknown, noneGive, value, word, same⟩ := maxDepth.of_cons
        have reads :
            Reads (member known "max_depth") row
              { known with maxDepth? := some value } := by
          unfold member
          rw [unknown]
          exact word.reads.once.andReturn
        refine .next reads (inductionHypothesis ⟨?_, maxLength, values.2⟩)
        rw [noneGive, same]
        exact .kept
      by_cases isLength : name = "max_query_length"
      · subst isLength
        rw [valuesOf_cons_other (by decide)] at maxDepth
        rw [valuesOf_cons_same] at maxLength
        obtain ⟨unknown, noneGive, value, length, same⟩ := maxLength.of_cons
        have reads :
            Reads (member known "max_query_length") row
              { known with maxLength? := some value } := by
          unfold member
          rw [unknown]
          exact length.reads.once.andReturn
        refine .next reads (inductionHypothesis ⟨maxDepth, ?_, values.2⟩)
        rw [noneGive, same]
        exact .kept
      · rw [valuesOf_cons_other isDepth] at maxDepth
        rw [valuesOf_cons_other isLength] at maxLength
        have passes := Json.Decoder.skip_reads (values.1 isDepth isLength)
        have reads : Reads (member known name) row known := by
          unfold member
          split
          · exact absurd rfl isDepth
          · exact absurd rfl isLength
          · exact passes.andReturn
        exact .next reads (inductionHypothesis ⟨maxDepth, maxLength, values.2⟩)

/-! ## Configurations -/

/-- What is read as limits is a configuration with these limits. -/
theorem decoder_takes (allowance : Nat) :
    Takes
      (fun row limits => ∃ known, Configures row known ∧ limits = known.complete)
      (decoder allowance) := by
  refine Takes.record (fun _ => ?_) fun _ => ?_
  · refine (Takes.members member_takes {}).andReturn ?_
    rintro row last ⟨members, rfl, chain⟩
    obtain ⟨named, rfl, gives⟩ := gives_of_members chain
    refine ⟨last, ?_, rfl⟩
    rw [List.map_map]
    exact .byName gives
  · refine Takes.behindMark (Takes.peek fun seen => Takes.ite ?_ ?_)
    · exact Takes.behindMark (Takes.pure ⟨{}, .nothing, rfl⟩)
    refine word_takes.bind fun row maxDepth word => ?_
    have further :
        Takes
          (fun more maxLength?? =>
            (more = [.closeArray] ∧ maxLength?? = none) ∨
              ∃ other maxLength?,
                more = .comma :: other ∧
                  IsLength other maxLength? ∧ maxLength?? = some maxLength?)
          (nextItem? (Json.Decoder.optional Json.Decoder.word)) := by
      refine Takes.peek fun seen => Takes.ite ?_ ?_
      · exact Takes.behindMark (Takes.pure (.inl ⟨rfl, rfl⟩))
      · refine Takes.behindMark (length_takes.andReturn fun other maxLength? length => ?_)
        exact .inr ⟨other, maxLength?, rfl, length, rfl⟩
    refine further.bind fun more maxLength?? item => ?_
    rcases item with ⟨rfl, rfl⟩ | ⟨other, maxLength?, rfl, length, rfl⟩
    · refine Takes.pure ⟨_, .depth word, rfl⟩
    · refine Takes.behindMark (Takes.pure ?_)
      refine ⟨{ maxDepth? := some maxDepth, maxLength? := some maxLength? }, ?_, rfl⟩
      simpa [Json.array, Json.separated] using Configures.both word length

theorem nextItem?_reads_end
    {α : Type}
    (item : Json.Decoder α) :
    Reads (nextItem? item) [.closeArray] none := by
  apply Reads.peek
  rw [if_pos rfl]
  exact (Reads.mark .closeArray).bind (Reads.pure none)

theorem nextItem?_reads_comma
    {α : Type}
    {item : Json.Decoder α}
    {row : List Json.Token}
    {value : α}
    (reads : Reads item row value) :
    Reads (nextItem? item) (.comma :: row) (some value) := by
  apply Reads.peek
  rw [if_neg (by simp)]
  exact (Reads.mark .comma).bind reads.andReturn

/-- An array of limits is read in order. -/
theorem inOrder_reads
    {row more : List Json.Token}
    {maxDepth : Nat}
    {limits : Limits}
    (word : IsWord row maxDepth)
    (reads :
      Reads
        (do
          match ← nextItem? (Json.Decoder.optional Json.Decoder.word) with
          | none =>
              return { maxDepth := maxDepth }
          | some maxLength? =>
              Json.Decoder.mark .closeArray
              return { maxDepth := maxDepth, maxLength? := maxLength? })
        more limits) :
    Reads inOrder (.openArray :: (row ++ more)) limits := by
  apply (Reads.mark .openArray).bind
  have wordRead := word.reads
  cases word with
  | number =>
      apply Reads.peek
      rw [if_neg (by simp)]
      exact wordRead.bind reads

/-- A configuration is read as its limits, with the defaults for others. -/
theorem Configures.reads
    {row : List Json.Token}
    {known : Known}
    (configures : Configures row known)
    (remaining : Nat) :
    Reads (decoder (remaining + 1)) row known.complete := by
  cases configures with
  | byName gives =>
      exact Reads.record (Reads.fields gives.reads).andReturn
  | nothing =>
      exact Reads.recordInOrder fun rest => rfl
  | depth word =>
      refine Reads.recordInOrder (inOrder_reads word ?_)
      exact (nextItem?_reads_end _).bind (Reads.pure _)
  | @both row other maxDepth maxLength? word length =>
      have shape :
          Json.array [row, other] =
            .openArray :: (row ++ (.comma :: other ++ ([.closeArray] ++ []))) := by
        simp [Json.array, Json.separated]
      rw [shape]
      refine Reads.recordInOrder (inOrder_reads word ?_)
      refine (nextItem?_reads_comma length.reads).bind ?_
      exact (Reads.mark .closeArray).bind (Reads.pure _)

/-- A text is read as limits exactly if it is a configuration that gives them. -/
theorem decode_eq_ok_iff
    {text : String}
    {limits : Limits} :
    Json.decode decoder text = .ok limits ↔
      ∃ known, Configures (Json.scan text.toList) known ∧ limits = known.complete := by
  constructor
  · intro decoded
    unfold Json.decode at decoded
    cases read : (decoder Json.nestingLimit).run (Json.scan text.toList) with
    | error error =>
        simp [read, bind, Except.bind] at decoded
    | ok found =>
        obtain ⟨value, rest⟩ := found
        simp only [read, bind, Except.bind] at decoded
        split at decoded
        · rename_i atEnd
          cases decoded
          obtain ⟨row, split, configures⟩ := (decoder_takes _).of_run read
          rw [atEnd, List.append_nil] at split
          rw [split]
          exact configures
        · cases decoded
  · rintro ⟨known, configures, rfl⟩
    have read := configures.reads 126 []
    rw [List.append_nil] at read
    unfold Json.decode
    rw [show Json.nestingLimit = 126 + 1 from rfl, read]
    rfl

/-- A member that nobody asks for is passed over, and a limit left out has its default. -/
example :
    (Json.decode decoder
        "\x7b \"max_query_length\": 64, \"comment\": [null, 1.5] \x7d").toOption =
      some { maxDepth := 128, maxLength? := some 64 } := by
  decide +kernel

end SelectCypher.Limits
