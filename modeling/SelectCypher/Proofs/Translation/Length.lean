import SelectCypher.Proofs.Translation.Agreement

namespace SelectCypher

/-!
# A limit on length counts characters

A text with more characters than the limit is refused for that, whatever else is in
it; for any other text the limit might as well not be there.  Bytes are counted first
only because a text that is short in bytes is short in characters.  A translation is
limited in what is left of a text without the white space around it, so any amount of
that white space goes unnoticed.
-/

/-- The count of bytes that may come first decides nothing. -/
theorem checkLength_eq
    (text : String)
    (limit : Nat) :
    checkLength text limit =
      if limit < text.toList.length then
        .error (.tooLong text.toList.length limit)
      else
        .ok () := by
  by_cases long : limit < text.toList.length
  · have bytes := length_le_byteLength text.toList
    have manyBytes : ¬ byteLength text.toList ≤ limit := by omega
    rw [checkLength, if_neg manyBytes]
  · rw [if_neg long, checkLength_eq_ok_iff]
    exact Nat.le_of_not_lt long

/-- A text fits if it has no more characters than a limit that there may be. -/
theorem Limits.checkText_eq_ok_iff
    {limits : Limits}
    {text : String} :
    limits.checkText text = .ok () ↔
      ∀ limit ∈ limits.maxLength?, text.toList.length ≤ limit := by
  unfold Limits.checkText
  cases limits.maxLength? with
  | none =>
      simp
  | some limit =>
      simpa using checkLength_eq_ok_iff

theorem Limits.checkText_limited
    (text : String)
    (maxDepth limit : Nat) :
    Limits.checkText { maxDepth := maxDepth, maxLength? := some limit } text =
      if limit < text.toList.length then
        .error (.tooLong text.toList.length limit)
      else
        .ok () :=
  checkLength_eq text limit

/-- Reading a text under a limit on its length. -/
theorem Query.ofText_limited
    (text : String)
    (maxDepth limit : Nat) :
    Query.ofText text { maxDepth := maxDepth, maxLength? := some limit } =
      if limit < text.toList.length then
        .error (.tooLong text.toList.length limit)
      else
        Query.ofText text { maxDepth := maxDepth, maxLength? := none } := by
  rw [Query.ofText, Limits.checkText_limited]
  split <;> rfl

/-- Screening a text under a limit on its length. -/
theorem screen_limited
    (text : String)
    (maxDepth limit : Nat) :
    screen text { maxDepth := maxDepth, maxLength? := some limit } =
      if Text.trim text = "" then
        .error .empty
      else if limit < (Text.trim text).toList.length then
        .error (.query (.tooLong (Text.trim text).toList.length limit))
      else
        screen text { maxDepth := maxDepth, maxLength? := none } := by
  rw [screen_eq, screen_eq, Limits.checkText_limited]
  by_cases empty : Text.trim text = ""
  · simp only [empty, String.isEmpty_iff, ↓reduceIte]
  · by_cases long : limit < (Text.trim text).toList.length
    · simp only [String.isEmpty_iff, empty, long, ↓reduceIte]
    · simp only [String.isEmpty_iff, empty, long, ↓reduceIte, Limits.checkText]

/-- Translating a text under a limit on its length. -/
theorem translate_limited
    (text : String)
    (maxDepth limit : Nat) :
    translate text { maxDepth := maxDepth, maxLength? := some limit } =
      if Text.trim text = "" then
        .error .empty
      else if limit < (Text.trim text).toList.length then
        .error (.query (.tooLong (Text.trim text).toList.length limit))
      else
        translate text { maxDepth := maxDepth, maxLength? := none } := by
  rw [translate, translate, screen_limited, Query.ofText_limited, Text.trim_trim]
  by_cases empty : Text.trim text = ""
  · rw [if_pos empty, if_pos empty]
    rfl
  · rw [if_neg empty, if_neg empty]
    split <;> rfl

/-- What a limit on its length makes of a text. -/
structure LimitsLength
    (text : String)
    (maxDepth limit : Nat) :
    Prop where
  /-- Bytes are counted to no other effect than characters. -/
  checking :
    checkLength text limit =
      if limit < text.toList.length then
        .error (.tooLong text.toList.length limit)
      else
        .ok ()
  reading :
    Query.ofText text { maxDepth := maxDepth, maxLength? := some limit } =
      if limit < text.toList.length then
        .error (.tooLong text.toList.length limit)
      else
        Query.ofText text { maxDepth := maxDepth, maxLength? := none }
  translating :
    translate text { maxDepth := maxDepth, maxLength? := some limit } =
      if Text.trim text = "" then
        .error .empty
      else if limit < (Text.trim text).toList.length then
        .error (.query (.tooLong (Text.trim text).toList.length limit))
      else
        translate text { maxDepth := maxDepth, maxLength? := none }
  /-- White space put around the text is not translated and not counted. -/
  padding :
    ∀ leading trailing limits,
      (∀ character ∈ leading, Text.isBlank character = true) →
      (∀ character ∈ trailing, Text.isBlank character = true) →
      translate (String.ofList (leading ++ text.toList ++ trailing)) limits =
        translate text limits

/--
A limit on length refuses exactly the texts that have more characters, before anything
else is found wrong with them, and changes nothing for the others; a translation is
limited in the text without the white space around it.
-/
theorem limitsLength
    (text : String)
    (maxDepth limit : Nat) :
    LimitsLength text maxDepth limit where
  checking := checkLength_eq text limit
  reading := Query.ofText_limited text maxDepth limit
  translating := translate_limited text maxDepth limit
  padding := by
    intro leading trailing limits leadBlank trailBlank
    rw [translate, Text.trim_padded text leadBlank trailBlank]
    rfl

/-- Eight characters of nine bytes, too many by one, and a ninth that is trimmed off. -/
example :
    translate "'é' drop\u2003" { maxLength? := some 7 } =
        .error (.query (.tooLong 8 7)) ∧
      translate "'é' drop\u2003" { maxLength? := some 8 } =
        .error (.unsupportedStatement "DROP") := by
  decide +kernel

end SelectCypher
