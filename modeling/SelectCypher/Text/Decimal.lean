namespace SelectCypher.Text

/-!
# Numbers in decimal

A natural number is a row of ASCII digits, at least one, with zeros in front
allowed.  A word is a natural number below 2^64.
-/

/-- The value of one digit. -/
def digitValue (digit : Char) : Nat :=
  digit.toNat - '0'.toNat

/-- The number some digits stand for. -/
def naturalValue (digits : List Char) : Nat :=
  digits.foldl (fun value digit => 10 * value + digitValue digit) 0

/-- The number a text stands for, if it is a row of digits. -/
def natural? (text : List Char) : Option Nat :=
  if text ≠ [] ∧ text.all Char.isDigit then
    some (naturalValue text)
  else
    none

/-- The number a text stands for, if it is a row of digits and below 2^64. -/
def word? (text : List Char) : Option Nat :=
  (natural? text).filter (· < UInt64.size)

/-- A word, in front of which one plus sign may stand. -/
def signedWord? : List Char → Option Nat
  | '+' :: digits =>
      word? digits
  | digits =>
      word? digits

example : word? "0128".toList = some 128 := by decide +kernel
example : word? "18446744073709551616".toList = none := by decide +kernel
example : signedWord? "+5".toList = some 5 := by decide +kernel
example : signedWord? "+".toList = none := by decide +kernel

end SelectCypher.Text
