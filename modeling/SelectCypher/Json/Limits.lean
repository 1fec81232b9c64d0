import SelectCypher.Json.Decoder
import SelectCypher.Json.Text
import SelectCypher.Query.Limits

namespace SelectCypher.Limits

/-!
# Limits in JSON

Both limits are numbers below 2^64, or `null` for a query of any length.  A limit
that is not given has its default.
-/

open Json (Decoder)

/-- A length limit in JSON. -/
def lengthToJson : Option Nat → List Json.Token
  | none =>
      [.null]
  | some length =>
      [.number length.repr]

/-- Limits in JSON. -/
def toJson (limits : Limits) : List Json.Token :=
  Json.object
    [("max_depth", [.number limits.maxDepth.repr]),
      ("max_query_length", lengthToJson limits.maxLength?)]

/-- The limits known so far. -/
structure Known where
  maxDepth? : Option Nat := none
  maxLength? : Option (Option Nat) := none
  deriving Repr, DecidableEq

/-- Known limits, and defaults for the others. -/
def Known.complete (known : Known) : Limits where
  maxDepth := known.maxDepth?.getD defaultMaxDepth
  maxLength? := known.maxLength?.join

/-- Read a member of the limits. -/
def member
    (known : Known)
    (name : String) :
    Decoder Known := do
  match name with
  | "max_depth" =>
      let maxDepth? ← Decoder.once known.maxDepth? Decoder.word
      return { known with maxDepth? := maxDepth? }
  | "max_query_length" =>
      let maxLength? ←
        Decoder.once known.maxLength? (Decoder.optional Decoder.word)
      return { known with maxLength? := maxLength? }
  | _ =>
      Decoder.skip
      return known

/-- Read limits by name. -/
def byName : Decoder Limits := do
  let known ← Decoder.fields member {}
  return known.complete

/-- Read the end of an array or, behind a comma, its next item. -/
def nextItem?
    {α : Type}
    (item : Decoder α) :
    Decoder (Option α) := do
  if (← Decoder.peek) = some .closeArray then
    Decoder.mark .closeArray
    return none
  else
    Decoder.mark .comma
    return some (← item)

/-- Read limits in order; the last ones may be left out. -/
def inOrder : Decoder Limits := do
  Decoder.mark .openArray
  if (← Decoder.peek) = some .closeArray then
    Decoder.mark .closeArray
    return {}
  else
    let maxDepth ← Decoder.word
    match ← nextItem? (Decoder.optional Decoder.word) with
    | none =>
        return { maxDepth := maxDepth }
    | some maxLength? =>
        Decoder.mark .closeArray
        return { maxDepth := maxDepth, maxLength? := maxLength? }

/-- Read limits. -/
def decoder (allowance : Nat) : Decoder Limits :=
  Decoder.record allowance (fun _ => byName) (fun _ => inOrder)

end SelectCypher.Limits
