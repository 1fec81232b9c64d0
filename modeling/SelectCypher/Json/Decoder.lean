import SelectCypher.Json.Scan
import SelectCypher.Text.Decimal

namespace SelectCypher.Json

/-!
# Reading values from JSON tokens

A decoder reads a value from the front of some tokens, in the order in which
they stand, and leaves no more tokens than it was given.  So the first thing
wrong in reading order is what is reported.
-/

/-- Why a value is not read. -/
inductive DecodeError
  /-- The text is not JSON, or not of the form asked for. -/
  | malformed
  /-- A selection by name lists no name. -/
  | noColumns
  deriving Repr, DecidableEq

/-- A way to read a value from the front of some tokens. -/
structure Decoder (α : Type) where
  run : List Token → Except DecodeError (α × List Token)
  noLonger :
    ∀ {tokens rest : List Token} {value : α},
      run tokens = .ok (value, rest) → rest.length ≤ tokens.length

namespace Decoder

/-- Read nothing. -/
def succeed
    {α : Type}
    (value : α) :
    Decoder α where
  run tokens := .ok (value, tokens)
  noLonger := by
    intro tokens rest read same
    cases same
    exact Nat.le_refl _

/-- Fail wherever it is run. -/
def fail
    {α : Type}
    (error : DecodeError) :
    Decoder α where
  run _ := .error error
  noLonger := by
    intro tokens rest value same
    cases same

/-- Read a value and then another one that may depend on it. -/
def andThen
    {α β : Type}
    (first : Decoder α)
    (second : α → Decoder β) :
    Decoder β where
  run tokens :=
    match first.run tokens with
    | .ok (value, rest) =>
        (second value).run rest
    | .error error =>
        .error error
  noLonger := by
    intro tokens rest value read
    split at read
    · rename_i middleValue middle firstRead
      exact Nat.le_trans ((second middleValue).noLonger read)
        (first.noLonger firstRead)
    · cases read

instance : Monad Decoder where
  pure := succeed
  bind := andThen

/-- Read one token that is accepted. -/
def token
    {α : Type}
    (accept : Token → Option α) :
    Decoder α where
  run tokens :=
    match tokens with
    | [] =>
        .error .malformed
    | first :: rest =>
        match accept first with
        | some value =>
            .ok (value, rest)
        | none =>
            .error .malformed
  noLonger := by
    intro tokens rest value read
    split at read
    · cases read
    · split at read
      · cases read
        simp
      · cases read

/-- Read one given token. -/
def mark (expected : Token) : Decoder Unit :=
  token fun found => if found = expected then some () else none

/-- Read a string. -/
def string : Decoder String :=
  token fun
    | .string content => some content
    | _ => none

/-- Read `true` or `false`. -/
def bool : Decoder Bool :=
  token fun
    | .bool value => some value
    | _ => none

/-- Read `null`. -/
def null : Decoder Unit :=
  mark .null

/-- Read an integer from 0 to 2^64 - 1. -/
def word : Decoder Nat :=
  token fun
    | .number digits => Text.word? digits.toList
    | _ => none

/-- Look at the next token without reading it. -/
def peek : Decoder (Option Token) where
  run tokens := .ok (tokens.head?, tokens)
  noLonger := by
    intro tokens rest value read
    cases read
    exact Nat.le_refl _

/-- Read `null` or a value. -/
def optional
    {α : Type}
    (value : Decoder α) :
    Decoder (Option α) := do
  if (← peek) = some .null then
    null
    return none
  else
    return some (← value)

/-- Read items up to the end of an array, behind those already read. -/
def itemsFrom
    {α : Type}
    (item : Decoder α)
    (read : List α)
    (tokens : List Token) :
    Except DecodeError (List α × List Token) :=
  match _ : item.run tokens with
  | .ok (value, .comma :: rest) =>
      itemsFrom item (value :: read) rest
  | .ok (value, .closeArray :: rest) =>
      .ok ((value :: read).reverse, rest)
  | .ok _ =>
      .error .malformed
  | .error error =>
      .error error
termination_by tokens.length
decreasing_by exact item.noLonger (by assumption)

theorem itemsFrom_noLonger
    {α : Type}
    {item : Decoder α}
    {read values : List α}
    {tokens rest : List Token}
    (found : itemsFrom item read tokens = .ok (values, rest)) :
    rest.length ≤ tokens.length := by
  fun_induction itemsFrom item read tokens with
  | case1 read tokens value later itemRead inductionHypothesis =>
      have shorter := item.noLonger itemRead
      have further := inductionHypothesis found
      simp only [List.length_cons] at shorter
      omega
  | case2 read tokens value later itemRead =>
      cases found
      have shorter := item.noLonger itemRead
      simp only [List.length_cons] at shorter
      omega
  | case3 =>
      cases found
  | case4 =>
      cases found

/-- Read an array of any number of items. -/
def list
    {α : Type}
    (item : Decoder α) :
    Decoder (List α) where
  run tokens :=
    match tokens with
    | .openArray :: .closeArray :: rest =>
        .ok ([], rest)
    | .openArray :: rest =>
        itemsFrom item [] rest
    | _ =>
        .error .malformed
  noLonger := by
    intro tokens rest value read
    split at read
    · cases read
      simp only [List.length_cons]
      omega
    · have shorter := itemsFrom_noLonger read
      simp only [List.length_cons]
      omega
    · cases read

/-- Read members up to the end of an object, each changing what is known so far. -/
def membersFrom
    {κ σ : Type}
    (name? : Token → Option κ)
    (member : σ → κ → Decoder σ)
    (known : σ)
    (tokens : List Token) :
    Except DecodeError (σ × List Token) :=
  match tokens with
  | first :: .colon :: later =>
      match name? first with
      | none =>
          .error .malformed
      | some name =>
          match _ : (member known name).run later with
          | .ok (next, .comma :: rest) =>
              membersFrom name? member next rest
          | .ok (next, .closeObject :: rest) =>
              .ok (next, rest)
          | .ok _ =>
              .error .malformed
          | .error error =>
              .error error
  | _ =>
      .error .malformed
termination_by tokens.length
decreasing_by
  rename_i memberRead
  have shorter := (member known name).noLonger memberRead
  simp only [List.length_cons] at shorter ⊢
  omega

theorem membersFrom_noLonger
    {κ σ : Type}
    {name? : Token → Option κ}
    {member : σ → κ → Decoder σ}
    {known last : σ}
    {tokens rest : List Token}
    (found : membersFrom name? member known tokens = .ok (last, rest)) :
    rest.length ≤ tokens.length := by
  fun_induction membersFrom name? member known tokens with
  | case1 =>
      cases found
  | case2 known first later name named next more memberRead inductionHypothesis =>
      have shorter := (member known name).noLonger memberRead
      have further := inductionHypothesis found
      simp only [List.length_cons] at shorter ⊢
      omega
  | case3 known first later name named next more memberRead =>
      cases found
      have shorter := (member known name).noLonger memberRead
      simp only [List.length_cons] at shorter ⊢
      omega
  | case4 =>
      cases found
  | case5 =>
      cases found
  | case6 =>
      cases found

/-- Read an object whose members each change what is known so far. -/
def members
    {κ σ : Type}
    (name? : Token → Option κ)
    (member : σ → κ → Decoder σ)
    (known : σ) :
    Decoder σ where
  run tokens :=
    match tokens with
    | .openObject :: .closeObject :: rest =>
        .ok (known, rest)
    | .openObject :: rest =>
        membersFrom name? member known rest
    | _ =>
        .error .malformed
  noLonger := by
    intro tokens rest value read
    split at read
    · cases read
      simp only [List.length_cons]
      omega
    · have shorter := membersFrom_noLonger read
      simp only [List.length_cons]
      omega
    · cases read

/-- The content of a string token. -/
def stringContent? : Token → Option String
  | .string content => some content
  | _ => none

/-- Read an object whose members each change what is known so far, by name. -/
def fields
    {σ : Type}
    (member : σ → String → Decoder σ)
    (known : σ) :
    Decoder σ :=
  members stringContent? member known

/-- Whether a token names a member that is skipped. -/
def skippedName? : Token → Option Unit
  | .string _ | .brokenString => some ()
  | _ => none

/-- Read past a value with at most so many brackets inside each other. -/
def skipWithin : Nat → Decoder Unit
  | 0 =>
      fail .malformed
  | depth + 1 => do
      match ← peek with
      | some .openArray =>
          let _ ← list (skipWithin depth)
      | some .openObject =>
          members skippedName? (fun _ _ => skipWithin depth) ()
      | _ =>
          token fun
            | .null | .bool _ | .number _ | .string _ | .brokenString => some ()
            | _ => none

/-- Read past any value. -/
def skip : Decoder Unit where
  run tokens := (skipWithin tokens.length).run tokens
  noLonger := (skipWithin _).noLonger

/-- Read a value inside one more bracket, if that many are allowed. -/
def nested
    {α : Type}
    (allowance : Nat)
    (inside : Nat → Decoder α) :
    Decoder α :=
  match allowance with
  | 0 =>
      fail .malformed
  | remaining + 1 =>
      inside remaining

/--
Read a record, whose fields stand by name in an object or in order in an array.
-/
def record
    {α : Type}
    (allowance : Nat)
    (byName inOrder : Nat → Decoder α) :
    Decoder α := do
  match ← peek with
  | some .openObject =>
      nested allowance byName
  | some .openArray =>
      nested allowance inOrder
  | _ =>
      fail .malformed

/--
Read one of several kinds of value.  A kind without content may stand as its tag
alone; otherwise the tag is the name of the only member of an object.
-/
def choice
    {α : Type}
    (allowance : Nat)
    (bare : String → Option α)
    (content : Nat → String → Decoder α) :
    Decoder α := do
  match ← peek with
  | some .openObject =>
      nested allowance fun remaining => do
        mark .openObject
        let tag ← string
        mark .colon
        let value ← content remaining tag
        mark .closeObject
        return value
  | _ =>
      let tag ← string
      match bare tag with
      | some value =>
          return value
      | none =>
          fail .malformed

/-- Read one of several kinds of value that all have no content. -/
def tag
    {α : Type}
    (allowance : Nat)
    (bare : String → Option α) :
    Decoder α :=
  choice allowance bare fun _ name => do
    match bare name with
    | some value =>
        null
        return value
    | none =>
        fail .malformed

/-- The value of a field that must have been read. -/
def required
    {α : Type}
    (value? : Option α) :
    Decoder α :=
  match value? with
  | some value =>
      succeed value
  | none =>
      fail .malformed

/-- Read a field for the first time; a second time is an error. -/
def once
    {α : Type}
    (known? : Option α)
    (value : Decoder α) :
    Decoder (Option α) :=
  match known? with
  | some _ =>
      fail .malformed
  | none => do
      return some (← value)

end Decoder

/-- The number of brackets that may stand inside each other. -/
def nestingLimit : Nat :=
  127

/-- The value a text holds, behind which nothing may follow. -/
def decode
    {α : Type}
    (decoder : Nat → Decoder α)
    (text : String) :
    Except DecodeError α := do
  let (value, rest) ← (decoder nestingLimit).run (scan text.toList)
  if rest = [] then
    return value
  else
    throw .malformed

namespace DecodeError

/-- The reason given for an error, if it is about more than the form. -/
def message? : DecodeError → Option String
  | malformed =>
      none
  | noColumns =>
      some "explicit column list must not be empty"

end DecodeError

end SelectCypher.Json
