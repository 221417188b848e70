import Depot.Toml.Scalar

/-! The two forms of a date or time. A document has it as a value of its own kind; beside that, a
table whose first key is the reserved one stands for the date or time that the text under that key
spells, and what follows the first key does not count. Every date or time has its table, but not
every such table has its date or time: where the text spells none, or where there is no text, the
whole document is void. -/

namespace Depot.Toml.Value

/-- The key under which a table has the text of a date or time. -/
def reservedKey : String := "$__toml_private_datetime"

/-- A date or time as a table of one entry. -/
def reservedTable (normalForm : String) : Value :=
  table [(reservedKey, text normalForm)]

/-- What stands under the reserved key, if that is the first one. -/
def reserved? : List (String × Value) → Option Value
  | [] => none
  | (key, v) :: _ => if key = reservedKey then some v else none

/-- The date or time that a text spells; nothing else spells one. -/
def spelledMoment? : Value → Option Value
  | text content => Scalar.momentOfText? content
  | _ => none

mutual

/-- The value with each table that stands for a date or time, at any depth, replaced by it. -/
def recoverMoments? : Value → Option Value
  | text content => some (text content)
  | integer n => some (integer n)
  | float literal => some (float literal)
  | boolean b => some (boolean b)
  | moment normalForm => some (moment normalForm)
  | array items => (recoverItems? items).map array
  | table entries =>
    match reserved? entries with
    | some v => spelledMoment? v
    | none => (recoverEntries? entries).map table

def recoverItems? : List Value → Option (List Value)
  | [] => some []
  | v :: rest => do return (← v.recoverMoments?) :: (← recoverItems? rest)

def recoverEntries? : List (String × Value) → Option (List (String × Value))
  | [] => some []
  | e :: rest => do return (← recoverEntry? e) :: (← recoverEntries? rest)

def recoverEntry? : String × Value → Option (String × Value)
  | (key, v) => do return (key, ← v.recoverMoments?)

end

end Depot.Toml.Value
