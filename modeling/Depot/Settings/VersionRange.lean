import Depot.Text.Decimal
import Depot.Text.Pieces

/-! Ranges of versions. A version is read as its runs of digits, those below 2 to the 64th, and
versions are compared number by number, a missing number being zero. A range stands between
brackets, which belong to it, or parentheses, which do not, with a comma between its ends; a blank
end is open, and a range without a comma is a single version. -/

namespace Depot

namespace Version

/-- The numbers of a version. -/
def numbers (version : String) : List Nat :=
  (version.toList.splitOnP (!Text.isDigit ·)).filterMap (Text.decimalBelow? UInt64.size)

/-- The order of lists of numbers that go on with zeros. -/
def compareNumbers (ms ns : List Nat) : Ordering :=
  (List.zipWithAll (fun m n => compare (m.getD 0) (n.getD 0)) ms ns).foldr Ordering.then .eq

def compare (v w : String) : Ordering :=
  compareNumbers (numbers v) (numbers w)

end Version

/-- A range of versions by its ends, a blank one being open. -/
structure VersionRange where
  lower : String
  lowerIncluded : Bool
  upper : String
  upperIncluded : Bool
deriving DecidableEq, Repr

namespace VersionRange

/-- Whether a text begins like a range. -/
def opens (s : String) : Bool :=
  s.toList.head? == some '[' || s.toList.head? == some '('

/-- The range that a text spells; none when it has no bracket or parenthesis at either end. -/
def parse? (s : String) : Option VersionRange := do
  let opening ← s.toList.head?
  let rest := s.toList.tail
  let closing ← rest.getLast?
  if (opening == '[' || opening == '(') && (closing == ']' || closing == ')') then
    let inner := rest.dropLast
    let (lower, upper) := (Text.cutAt? [','] inner).getD (inner, inner)
    return {
      lower := Text.trim (String.ofList lower)
      lowerIncluded := opening == '['
      upper := Text.trim (String.ofList upper)
      upperIncluded := closing == ']' }
  else none

/-- Whether an end lets a version pass that is on its right side, or exactly there. -/
def passes (order inside : Ordering) (included : Bool) : Bool :=
  order == inside || (order == .eq && included)

def holds (r : VersionRange) (version : String) : Bool :=
  (r.lower == "" || passes (Version.compare version r.lower) .gt r.lowerIncluded) &&
    (r.upper == "" || passes (Version.compare version r.upper) .lt r.upperIncluded)

end VersionRange

end Depot
