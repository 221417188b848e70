/-! Decimal numerals in ASCII digits. A numeral is read most significant digit first and stands for
a number below a limit; leading zeros are allowed, blanks and separators are not. -/

namespace Depot.Text

def isDigit (c : Char) : Bool :=
  '0' ≤ c && c ≤ '9'

def digitValue (c : Char) : Nat :=
  c.toNat - '0'.toNat

/-- The number that the digits stand for, most significant digit first. -/
def decimalValue (cs : List Char) : Nat :=
  cs.foldl (fun n c => 10 * n + digitValue c) 0

/-- The number below the limit that one or more digits stand for. -/
def decimalBelow? (limit : Nat) (cs : List Char) : Option Nat :=
  if cs ≠ [] ∧ cs.all isDigit ∧ decimalValue cs < limit then some (decimalValue cs) else none

/-- A numeral that may begin with a plus sign. -/
def signedDecimalBelow? (limit : Nat) : List Char → Option Nat
  | '+' :: cs => decimalBelow? limit cs
  | cs => decimalBelow? limit cs

end Depot.Text
