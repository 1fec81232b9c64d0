import SelectCypher.Json.Decoder
import SelectCypher.Json.Text
import SelectCypher.Query.Basic

namespace SelectCypher

/-!
# Queries in JSON

A value of several kinds is an object whose only member names the kind; kinds
without content are written as that name alone.  Records are written as objects
and may be read from arrays too.  A selection by name must list a name.
-/

open Json (Decoder)

/-- A name in JSON. -/
def Identifier.toJson (name : Identifier) : List Json.Token :=
  [.string name.text]

/-- Read a name. -/
def Identifier.decoder : Decoder Identifier := do
  return ⟨← Decoder.string⟩

/-- An operator in JSON. -/
def Operator.toJson (operator : Operator) : List Json.Token :=
  [.string operator.tag]

/-- Read an operator. -/
def Operator.decoder (allowance : Nat) : Decoder Operator :=
  Decoder.tag allowance Operator.ofTag?

namespace Literal

/-- A value in JSON. -/
def toJson : Literal → List Json.Token
  | string content =>
      Json.tagged "Str" [.string content]
  | number digits =>
      Json.tagged "Num" [.string digits]
  | bool value =>
      Json.tagged "Bool" [.bool value]
  | null =>
      [.string "Null"]

/-- Read a value. -/
def decoder (allowance : Nat) : Decoder Literal :=
  Decoder.choice allowance
    (fun tag => if tag = "Null" then some null else none)
    fun _ tag => do
      match tag with
      | "Str" =>
          return string (← Decoder.string)
      | "Num" =>
          return number (← Decoder.string)
      | "Bool" =>
          return bool (← Decoder.bool)
      | "Null" =>
          Decoder.null
          return null
      | _ =>
          Decoder.fail .malformed

end Literal

namespace Condition

/-- The name of a kind of condition that joins two others. -/
def joinTag : Connective → String
  | .and => "And"
  | .or => "Or"

/-- A condition in JSON. -/
def toJson : Condition → List Json.Token
  | comparison column operator value =>
      Json.tagged "Comparison"
        (Json.object
          [("column", column.toJson), ("operator", operator.toJson),
            ("value", value.toJson)])
  | join connective left right =>
      Json.tagged (joinTag connective) (Json.array [left.toJson, right.toJson])

/-- The parts of a comparison known so far. -/
structure KnownComparison where
  column? : Option Identifier := none
  operator? : Option Operator := none
  value? : Option Literal := none
  deriving Repr, DecidableEq

/-- Read a member of a comparison. -/
def comparisonMember
    (allowance : Nat)
    (known : KnownComparison)
    (name : String) :
    Decoder KnownComparison := do
  match name with
  | "column" =>
      let column? ← Decoder.once known.column? Identifier.decoder
      return { known with column? := column? }
  | "operator" =>
      let operator? ← Decoder.once known.operator? (Operator.decoder allowance)
      return { known with operator? := operator? }
  | "value" =>
      let value? ← Decoder.once known.value? (Literal.decoder allowance)
      return { known with value? := value? }
  | _ =>
      Decoder.skip
      return known

/-- Read the parts of a comparison by name. -/
def comparisonByName (allowance : Nat) : Decoder Condition := do
  let known ← Decoder.fields (comparisonMember allowance) {}
  let column ← Decoder.required known.column?
  let operator ← Decoder.required known.operator?
  let value ← Decoder.required known.value?
  return comparison column operator value

/-- Read the parts of a comparison in order. -/
def comparisonInOrder (allowance : Nat) : Decoder Condition := do
  Decoder.mark .openArray
  let column ← Identifier.decoder
  Decoder.mark .comma
  let operator ← Operator.decoder allowance
  Decoder.mark .comma
  let value ← Literal.decoder allowance
  Decoder.mark .closeArray
  return comparison column operator value

/-- Read the two operands of a joined condition. -/
def operandPair
    (connective : Connective)
    (operand : Decoder Condition) :
    Decoder Condition := do
  Decoder.mark .openArray
  let left ← operand
  Decoder.mark .comma
  let right ← operand
  Decoder.mark .closeArray
  return join connective left right

/--
Read a condition.  Every condition stands inside two brackets of its own at
least, so an allowance below two is never enough.
-/
def decoder : Nat → Decoder Condition
  | allowance + 2 =>
      Decoder.choice (allowance + 2) (fun _ => none) fun _ tag =>
        match tag with
        | "Comparison" =>
            Decoder.record (allowance + 1) comparisonByName comparisonInOrder
        | "And" =>
            operandPair .and (decoder allowance)
        | "Or" =>
            operandPair .or (decoder allowance)
        | _ =>
            Decoder.fail .malformed
  | _ =>
      Decoder.fail .malformed

end Condition

namespace Selection

/-- A selection in JSON. -/
def toJson : Selection → List Json.Token
  | everything =>
      [.string "All"]
  | columns names =>
      Json.tagged "Explicit" (Json.array (names.map Identifier.toJson))

/-- Read a selection, which may still list no name. -/
def anyDecoder (allowance : Nat) : Decoder Selection :=
  Decoder.choice allowance
    (fun tag => if tag = "All" then some everything else none)
    fun remaining tag => do
      match tag with
      | "All" =>
          Decoder.null
          return everything
      | "Explicit" =>
          let names ←
            Decoder.nested remaining fun _ => Decoder.list Identifier.decoder
          return columns names
      | _ =>
          Decoder.fail .malformed

/-- Read a selection, which must list a name if it is one by name. -/
def decoder (allowance : Nat) : Decoder Selection := do
  match ← anyDecoder allowance with
  | columns [] =>
      Decoder.fail .noColumns
  | selection =>
      return selection

end Selection

namespace Query

/-- A filter in JSON. -/
def filterToJson : Option Condition → List Json.Token
  | none =>
      [.null]
  | some condition =>
      condition.toJson

/-- A query in JSON. -/
def toJson (query : Query) : List Json.Token :=
  Json.object
    [("statement",
      Json.object
        [("columns", query.selection.toJson), ("table", query.table.toJson),
          ("filter", filterToJson query.filter?)])]

/-- The parts of a statement known so far. -/
structure KnownStatement where
  selection? : Option Selection := none
  table? : Option Identifier := none
  filter? : Option (Option Condition) := none
  deriving Repr, DecidableEq

/-- Read a member of a statement. -/
def statementMember
    (allowance : Nat)
    (known : KnownStatement)
    (name : String) :
    Decoder KnownStatement := do
  match name with
  | "columns" =>
      let selection? ←
        Decoder.once known.selection? (Selection.decoder allowance)
      return { known with selection? := selection? }
  | "table" =>
      let table? ← Decoder.once known.table? Identifier.decoder
      return { known with table? := table? }
  | "filter" =>
      let filter? ←
        Decoder.once known.filter?
          (Decoder.optional (Condition.decoder allowance))
      return { known with filter? := filter? }
  | _ =>
      Decoder.skip
      return known

/-- Read the parts of a statement by name; without a filter there is none. -/
def statementByName (allowance : Nat) : Decoder Query := do
  let known ← Decoder.fields (statementMember allowance) {}
  let selection ← Decoder.required known.selection?
  let table ← Decoder.required known.table?
  return { selection, table, filter? := known.filter?.join }

/-- Read the parts of a statement in order. -/
def statementInOrder (allowance : Nat) : Decoder Query := do
  Decoder.mark .openArray
  let selection ← Selection.decoder allowance
  Decoder.mark .comma
  let table ← Identifier.decoder
  Decoder.mark .comma
  let filter? ← Decoder.optional (Condition.decoder allowance)
  Decoder.mark .closeArray
  return { selection, table, filter? }

/-- Read a statement. -/
def statementDecoder (allowance : Nat) : Decoder Query :=
  Decoder.record allowance statementByName statementInOrder

/-- Read a member of a query. -/
def queryMember
    (allowance : Nat)
    (known? : Option Query)
    (name : String) :
    Decoder (Option Query) := do
  match name with
  | "statement" =>
      Decoder.once known? (statementDecoder allowance)
  | _ =>
      Decoder.skip
      return known?

/-- Read a query by the name of its statement. -/
def queryByName (allowance : Nat) : Decoder Query := do
  let known? ← Decoder.fields (queryMember allowance) none
  Decoder.required known?

/-- Read a query whose statement is the only item of an array. -/
def queryInOrder (allowance : Nat) : Decoder Query := do
  Decoder.mark .openArray
  let query ← statementDecoder allowance
  Decoder.mark .closeArray
  return query

/-- Read a query. -/
def decoder (allowance : Nat) : Decoder Query :=
  Decoder.record allowance queryByName queryInOrder

end Query

end SelectCypher
