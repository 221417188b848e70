import Depot.Text.Folding

/-! Host patterns. A star stands for any run of characters without a line feed, and every other
character for itself in any case. Whether a text matches is found from its end: a row says which
tails of the pattern match the text read so far, and reading one more character in front of it gives
the next row, so the work is the product of the two lengths however many stars there are. -/

namespace Depot.Text.Wildcard

/-- Which tails of the pattern, the whole first and the empty one last, match the empty text. -/
def emptyRow : List Char → List Bool
  | [] => [true]
  | x :: pattern =>
    let shorter := emptyRow pattern
    (x == '*' && shorter.headD false) :: shorter

/-- Which tails of the pattern match the text with `c` in front, given those that match the text. -/
def nextRow (c : Char) : List Char → List Bool → List Bool
  | [], _ => [false]
  | x :: pattern, row =>
    let shorter := nextRow c pattern row.tail
    let here :=
      if x == '*' then shorter.headD false || (c != '\n' && row.headD false)
      else x == c && row.tail.headD false
    here :: shorter

/-- Whether the whole text is an instance of the pattern, case taken as written. -/
def matchesExactly (pattern text : List Char) : Bool :=
  (text.foldr (nextRow · pattern) (emptyRow pattern)).headD false

/-- Whether the whole text is an instance of the pattern in any case. -/
def accepts (pattern text : String) : Bool :=
  matchesExactly (pattern.toList.map foldChar) (text.toList.map foldChar)

end Depot.Text.Wildcard
