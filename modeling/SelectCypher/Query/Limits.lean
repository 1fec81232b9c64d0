namespace SelectCypher

/-!
# Limits on a query

How deep the parentheses of a condition may nest, and how many characters a
query may have.
-/

/-- The nesting of parentheses allowed unless something else is asked for. -/
def defaultMaxDepth : Nat :=
  128

/-- Limits on the nesting of parentheses and on the length in characters. -/
structure Limits where
  maxDepth : Nat := defaultMaxDepth
  /-- No limit if `none`. -/
  maxLength? : Option Nat := none
  deriving Repr, DecidableEq

end SelectCypher
