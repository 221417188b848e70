import Depot.Text.Pieces

/-! Letters compared without regard to case. Only the letters from A to Z have a lower case here:
protocols, operating system names and switches are ASCII words, and every other character, a letter
of another alphabet included, stands for itself. -/

namespace Depot.Text

/-- The text with A to Z in lower case. -/
def lower (s : String) : String :=
  s.map Char.toLower

/-- Equal up to the case of A to Z. -/
def eqIgnoringCase (s t : String) : Bool :=
  lower s == lower t

/-- Whether the part occurs in the whole. -/
def contains (part whole : String) : Bool :=
  (cutAt? part.toList whole.toList).isSome

end Depot.Text
