import SelectCypher.Token.Kind

namespace SelectCypher

/-!
# Queries

A query selects all columns or a list of them from one table, and may keep only
the rows that meet a condition.  A condition joins comparisons of a column with
a value; parentheses leave no node.
-/

/-- A column or table name, exactly as written. -/
structure Identifier where
  text : String
  deriving Repr, DecidableEq

/-- A value a column is compared with. -/
inductive Literal
  /-- The content of a string, without quotes. -/
  | string (content : String)
  /-- A number, exactly as written. -/
  | number (digits : String)
  | bool (value : Bool)
  | null
  deriving Repr, DecidableEq

/-- A test on the columns of a row. -/
inductive Condition
  | comparison (column : Identifier) (operator : Operator) (value : Literal)
  | join (connective : Connective) (left right : Condition)
  deriving Repr, DecidableEq

/-- How tightly a connective binds its operands. -/
def Connective.precedence : Connective → Nat
  | .or => 1
  | .and => 2

namespace Condition

/-- How tightly the outermost part of a condition binds. -/
def precedence : Condition → Nat
  | join connective _ _ => connective.precedence
  | comparison _ _ _ => 3

/-- The tested columns from left to right. -/
def columns : Condition → List Identifier
  | comparison column _ _ =>
      [column]
  | join _ left right =>
      left.columns ++ right.columns

end Condition

/-- The columns a query asks for. -/
inductive Selection
  | everything
  | columns (names : List Identifier)
  deriving Repr, DecidableEq

namespace Selection

/-- A selection by name, which needs at least one name. -/
def ofNames? (names : List Identifier) : Option Selection :=
  if names.isEmpty then none else some (columns names)

/-- The names a selection lists, none if it asks for everything. -/
def names : Selection → List Identifier
  | everything => []
  | columns names => names

/-- Whether a selection asks for everything. -/
def isEverything : Selection → Bool
  | everything => true
  | columns _ => false

end Selection

/-- A selection from one table, with or without a condition on its rows. -/
structure Query where
  selection : Selection
  table : Identifier
  filter? : Option Condition
  deriving Repr, DecidableEq

end SelectCypher
