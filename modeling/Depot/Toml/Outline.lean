import Depot.Toml.Value

/-! A TOML document while it is being read. Tables come into being in three ways: under a header of
their own, as a step on the way to a deeper header, or as a step of a dotted key. A header defines
its table once; a dotted key reaches into no table that has a header; an array of tables grows by
one table per header and is entered through its last one. Nothing is ever defined twice. -/

namespace Depot.Toml

/-- How a table came into being. -/
inductive Origin where
  /-- Under a header of its own, or as the document itself. -/
  | header
  /-- As a step on the way to a deeper header. -/
  | passage
  /-- As a step of a dotted key. -/
  | dotted
deriving DecidableEq, Repr

/-- What stands under a key. -/
inductive Item where
  | value (v : Value)
  | table (origin : Origin) (entries : List (String × Item))
  /-- An array of tables, each under a header of its own. -/
  | tables (elements : List (List (String × Item)))

namespace Item

mutual

/-- The value that is left when it no longer matters how the tables came into being. -/
def toValue : Item → Value
  | value v => v
  | table _ entries => .table (entriesToValue entries)
  | tables elements => .array (elementsToValue elements)

def entriesToValue : List (String × Item) → List (String × Value)
  | [] => []
  | e :: rest => entryToValue e :: entriesToValue rest

def entryToValue : String × Item → String × Value
  | (key, item) => (key, item.toValue)

def elementsToValue : List (List (String × Item)) → List Value
  | [] => []
  | entries :: rest => .table (entriesToValue entries) :: elementsToValue rest

end

end Item

/-- A table being read. -/
structure Outline where
  origin : Origin
  entries : List (String × Item)

namespace Outline

def empty : Outline := ⟨.header, []⟩

/-- The table with the item under the key, in place of what was there. -/
def set (t : Outline) (key : String) (item : Item) : Outline :=
  { t with entries := replaced t.entries }
where
  replaced : List (String × Item) → List (String × Item)
    | [] => [(key, item)]
    | (k, i) :: rest => if k = key then (key, item) :: rest else (k, i) :: replaced rest

/-- The table without the key. -/
def erase (t : Outline) (key : String) : Outline :=
  { t with entries := t.entries.filter (·.1 ≠ key) }

/-- The table with the one at the end of the path changed. Steps that are missing are made, by a
dotted key or on the way to a header. -/
def change (step : Origin) (f : Outline → Option Outline) : List String → Outline → Option Outline
  | [], t => f t
  | key :: path, t =>
    match t.entries.lookup key with
    | none => do
      let inner ← change step f path ⟨step, []⟩
      return t.set key (.table inner.origin inner.entries)
    | some (.value _) => none
    | some (.table origin entries) =>
      if step = .dotted ∧ origin = .header then none
      else do
        let inner ← change step f path ⟨origin, entries⟩
        return t.set key (.table inner.origin inner.entries)
    | some (.tables elements) => do
      let last ← elements.getLast?
      let inner ← change step f path ⟨.header, last⟩
      return t.set key (.tables (elements.dropLast ++ [inner.entries]))

/-- The table with a value under a key that may be dotted. -/
def define (path : List String) (v : Value) (t : Outline) : Option Outline := do
  let key ← path.getLast?
  let put (inner : Outline) : Option Outline :=
    if (inner.origin = .dotted) ↔ path.length = 1 then none
    else if (inner.entries.lookup key).isSome then none
    else some (inner.set key (.value v))
  t.change .dotted put path.dropLast

/-- The document with a table under a header. A table that was only a passage so far moves to the end
of its table: it has the place of its own header. -/
def openTable (path : List String) (t : Outline) : Option Outline := do
  let key ← path.getLast?
  let openHere (parent : Outline) : Option Outline :=
    match parent.entries.lookup key with
    | none => some (parent.set key (.table .header []))
    | some (.table .passage entries) =>
      some ((parent.erase key).set key (.table .header entries))
    | some _ => none
  t.change .passage openHere path.dropLast

/-- The document with one more table in an array of tables. -/
def openElement (path : List String) (t : Outline) : Option Outline := do
  let key ← path.getLast?
  let openHere (parent : Outline) : Option Outline :=
    match parent.entries.lookup key with
    | none => some (parent.set key (.tables [[]]))
    | some (.tables elements) => some (parent.set key (.tables (elements ++ [[]])))
    | some _ => none
  t.change .passage openHere path.dropLast

/-- The document with a value under a key of the table whose header was read last. -/
def defineUnder (header path : List String) (v : Value) (t : Outline) : Option Outline :=
  t.change .passage (define path v) header

def toValue (t : Outline) : Value :=
  .table (Item.entriesToValue t.entries)

end Outline

end Depot.Toml
