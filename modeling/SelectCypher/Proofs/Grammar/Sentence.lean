import SelectCypher.Query.Basic
import SelectCypher.Token.Basic

namespace SelectCypher.Grammar

/-!
# The grammar of queries

Which rows of tokens are queries, and which query each of them is:

```text
query       = SELECT selection FROM identifier [ WHERE disjunction ] end
selection   = "*" | identifier { "," identifier }
disjunction = conjunction { OR conjunction }
conjunction = operand { AND operand }
operand     = comparison | "(" disjunction ")"
comparison  = identifier operator literal
```

A repetition is a rule with itself on the left, so chains group to the left.
Parentheses leave no trace in the condition they enclose.
-/

/-- The literals that tokens stand for. -/
inductive Denotes : Token → Literal → Prop
  | string {token : Token} :
      token.kind = .stringLiteral →
      Denotes token (.string token.unquoted)
  | number {token : Token} :
      token.kind = .number →
      Denotes token (.number token.text)
  | truth {token : Token} :
      token.kind = .keyword .trueWord →
      Denotes token (.bool true)
  | falsehood {token : Token} :
      token.kind = .keyword .falseWord →
      Denotes token (.bool false)
  | null {token : Token} :
      token.kind = .keyword .nullWord →
      Denotes token .null

/-- The three layers of a condition, from the loosest to the tightest. -/
inductive Layer
  | disjunction
  | conjunction
  | operand
  deriving Repr, DecidableEq

/-- The conditions that rows of tokens form at each layer. -/
inductive Forms : Layer → List Token → Condition → Prop
  | comparison
      {column operator value : Token}
      {comparison : Operator}
      {literal : Literal} :
      column.kind = .identifier →
      operator.kind = .operator comparison →
      Denotes value literal →
      Forms .operand [column, operator, value]
        (.comparison ⟨column.text⟩ comparison literal)
  | group
      {opening closing : Token}
      {tokens : List Token}
      {condition : Condition} :
      opening.kind = .leftParen →
      Forms .disjunction tokens condition →
      closing.kind = .rightParen →
      Forms .operand (opening :: tokens ++ [closing]) condition
  | oneOperand
      {tokens : List Token}
      {condition : Condition} :
      Forms .operand tokens condition →
      Forms .conjunction tokens condition
  | and
      {word : Token}
      {before behind : List Token}
      {left right : Condition} :
      Forms .conjunction before left →
      word.kind = .keyword .andWord →
      Forms .operand behind right →
      Forms .conjunction (before ++ word :: behind) (.join .and left right)
  | oneConjunction
      {tokens : List Token}
      {condition : Condition} :
      Forms .conjunction tokens condition →
      Forms .disjunction tokens condition
  | or
      {word : Token}
      {before behind : List Token}
      {left right : Condition} :
      Forms .disjunction before left →
      word.kind = .keyword .orWord →
      Forms .conjunction behind right →
      Forms .disjunction (before ++ word :: behind) (.join .or left right)

/-- The lists of names that rows of tokens spell. -/
inductive Lists : List Token → List Identifier → Prop
  | one {name : Token} :
      name.kind = .identifier →
      Lists [name] [⟨name.text⟩]
  | more
      {comma name : Token}
      {tokens : List Token}
      {names : List Identifier} :
      Lists tokens names →
      comma.kind = .comma →
      name.kind = .identifier →
      Lists (tokens ++ [comma, name]) (names ++ [⟨name.text⟩])

/-- The selections that rows of tokens ask for. -/
inductive Selects : List Token → Selection → Prop
  | everything {asterisk : Token} :
      asterisk.kind = .asterisk →
      Selects [asterisk] .everything
  | columns
      {tokens : List Token}
      {names : List Identifier} :
      Lists tokens names →
      Selects tokens (.columns names)

/-- The filters that rows of tokens state. -/
inductive Filters : List Token → Option Condition → Prop
  | absent :
      Filters [] none
  | present
      {word : Token}
      {tokens : List Token}
      {condition : Condition} :
      word.kind = .keyword .whereWord →
      Forms .disjunction tokens condition →
      Filters (word :: tokens) (some condition)

/-- The queries that whole rows of tokens are. -/
inductive Sentence : List Token → Query → Prop
  | query
      {select source table last : Token}
      {selected filtered : List Token}
      {selection : Selection}
      {filter? : Option Condition} :
      select.kind = .keyword .selectWord →
      Selects selected selection →
      source.kind = .keyword .fromWord →
      table.kind = .identifier →
      Filters filtered filter? →
      last.kind = .endOfInput →
      Sentence
        (select :: selected ++ source :: table :: filtered ++ [last])
        { selection := selection
          table := ⟨table.text⟩
          filter? := filter? }

/-- Rows of tokens with which a sentence can begin, parentheses nested at will. -/
def Viable (tokens : List Token) : Prop :=
  ∃ continuation query, Sentence (tokens ++ continuation) query

/-- What begins a row with which a sentence can begin can begin it too. -/
theorem Viable.of_append
    {first second : List Token}
    (viable : Viable (first ++ second)) :
    Viable first := by
  obtain ⟨continuation, query, sentence⟩ := viable
  rw [List.append_assoc] at sentence
  exact ⟨second ++ continuation, query, sentence⟩

/-! ## Nesting -/

/-- Number of parentheses that are open behind a row of tokens. -/
def unclosed (tokens : List Token) : Nat :=
  tokens.countP (·.kind = .leftParen) - tokens.countP (·.kind = .rightParen)

/-- No parenthesis is opened inside as many others as the limit. -/
def NestedWithin
    (limit : Nat)
    (tokens : List Token) :
    Prop :=
  ∀ before opening behind,
    tokens = before ++ opening :: behind →
    opening.kind = .leftParen →
    unclosed before < limit

/--
The first parenthesis in reading order that is nested one deeper than a limit,
with the tokens before it.
-/
structure FirstTooDeep
    (limit : Nat)
    (before : List Token)
    (opening : Token) :
    Prop where
  isOpening : opening.kind = .leftParen
  within : NestedWithin limit before
  exceeds : unclosed before = limit

/-- A limit as large as the number of parentheses is never exceeded. -/
theorem nestedWithin_of_countP_le
    {limit : Nat}
    {tokens : List Token}
    (roomy : tokens.countP (·.kind = .leftParen) ≤ limit) :
    NestedWithin limit tokens := by
  rintro before opening behind rfl isOpening
  simp only [List.countP_append, List.countP_cons, isOpening, decide_true,
    ↓reduceIte] at roomy
  unfold unclosed
  omega

end SelectCypher.Grammar
