import Depot.Toml.Outline
import Depot.Toml.Scalar

/-! A TOML document read from text. A document is a sequence of lines: blank ones, comments, headers
and pairs of a key and a value. Arrays and inline tables may be nested, and keys dotted, to a depth
below 80. A byte order mark in front does not count. What is not a document gives nothing. -/

namespace Depot.Toml

/-- How deep arrays and inline tables may be nested, and how many parts a key may have. -/
def depthLimit : Nat := 79

namespace Document

def isBareKeyChar (c : Char) : Bool :=
  c.isAlphanum || c == '-' || c == '_'

/-- One part of a key, with the blanks around it. -/
def keyPart (cs : List Char) : Option (String × List Char) := do
  let cs := skipBlanks cs
  let (part, rest) ←
    if cs.head? == some '\x22' || cs.head? == some '\x27' then Scalar.lineText cs
    else
      let bare := cs.takeWhile isBareKeyChar
      if bare.isEmpty then none else some (String.ofList bare, cs.drop bare.length)
  return (part, skipBlanks rest)

/-- The parts of a key, at most as many as the first number says. -/
def keyParts : Nat → List Char → Option (List String × List Char)
  | 0, _ => none
  | n + 1, cs => do
    let (part, rest) ← keyPart cs
    match rest with
    | '.' :: rest =>
      let (parts, rest) ← keyParts n rest
      return (part :: parts, rest)
    | _ => return ([part], rest)

def key (cs : List Char) : Option (List String × List Char) :=
  keyParts depthLimit cs

/-- Blanks, line breaks and comments; a comment has to end with a line break. -/
def skipFiller (cs : List Char) : Option (List Char) :=
  go cs.length cs
where
  go : Nat → List Char → Option (List Char)
    | 0, cs => some cs
    | n + 1, cs =>
      match skipBlanks cs with
      | '#' :: rest => (newline? (skipComment ('#' :: rest))).bind (go n)
      | '\n' :: rest => go n rest
      | '\r' :: rest => (newline? ('\r' :: rest)).bind (go n)
      | rest => some rest

/-- What an array still needs: an item or its end, a comma or its end. -/
inductive ArrayState where
  | item
  | separator
deriving DecidableEq

mutual

/-- A value. The first number bounds the steps of reading, the second one the nesting that is left.
-/
def value : Nat → Nat → List Char → Option (Value × List Char)
  | 0, _, _ => none
  | fuel + 1, room, cs =>
    match cs with
    | '[' :: rest =>
      match room with
      | 0 => none
      | room + 1 => (items fuel room .item rest).map fun (found, after) => (.array found, after)
    | '\x7b' :: rest =>
      match room with
      | 0 => none
      | room + 1 =>
        match skipBlanks rest with
        | '\x7d' :: after => some (.table [], after)
        | rest => (pairs fuel room .empty rest).map fun (t, after) => (t.toValue, after)
    | '\x22' :: _ | '\x27' :: _ =>
      (Scalar.text cs).map fun (content, after) => (.text content, after)
    | 't' :: _ | 'f' :: _ => Scalar.boolean cs
    | 'i' :: _ | 'n' :: _ => Scalar.special cs
    | _ => Scalar.number cs

/-- The items of an array that are still to come, and its end. -/
def items : Nat → Nat → ArrayState → List Char → Option (List Value × List Char)
  | 0, _, _, _ => none
  | fuel + 1, room, state, cs => do
    match state, ← skipFiller cs with
    | _, ']' :: rest => return ([], rest)
    | .separator, ',' :: rest => items fuel room .item rest
    | .separator, _ => none
    | .item, rest =>
      let (v, rest) ← value fuel room rest
      let (more, rest) ← items fuel room .separator rest
      return (v :: more, rest)

/-- The pairs of an inline table that are still to come, and its end. -/
def pairs : Nat → Nat → Outline → List Char → Option (Outline × List Char)
  | 0, _, _, _ => none
  | fuel + 1, room, t, cs => do
    let (path, rest) ← key cs
    let rest ← Scalar.expect '=' rest
    let (v, rest) ← value fuel room (skipBlanks rest)
    let t ← t.define path v
    match skipBlanks rest with
    | ',' :: rest => pairs fuel room t rest
    | '\x7d' :: rest => return (t, rest)
    | _ => none

end

/-- What follows the end of a line: blanks, a comment, and a line break or the end of the text. -/
def lineEnd (cs : List Char) : Option (List Char) :=
  match skipComment (skipBlanks cs) with
  | [] => some []
  | rest => newline? rest

/-- A document as far as it has been read, and the header of the table that is being filled. -/
structure Draft where
  outline : Outline
  header : List String

/-- A header, after its first bracket. -/
def header (d : Draft) : List Char → Option (Draft × List Char)
  | '[' :: rest => do
    let (path, rest) ← key rest
    let outline ← d.outline.openElement path
    let rest ← Scalar.expect ']' rest
    return (⟨outline, path⟩, ← Scalar.expect ']' rest)
  | cs => do
    let (path, rest) ← key cs
    let outline ← d.outline.openTable path
    return (⟨outline, path⟩, ← Scalar.expect ']' rest)

/-- A key with its value. -/
def pair (d : Draft) (cs : List Char) : Option (Draft × List Char) := do
  let (path, rest) ← key cs
  let rest ← Scalar.expect '=' rest
  let (v, rest) ← value (2 * cs.length + 2) depthLimit (skipBlanks rest)
  return ({ d with outline := ← d.outline.defineUnder d.header path v }, rest)

/-- The rest of a document, line by line. The number bounds the lines. -/
def lines : Nat → Draft → List Char → Option Draft
  | 0, _, _ => none
  | n + 1, d, cs =>
    match skipBlanks cs with
    | [] => some d
    | '[' :: rest => do
      let (d, rest) ← header d rest
      lines n d (← lineEnd rest)
    | c :: rest =>
      if c == '#' || c == '\n' || c == '\r' then (lineEnd (c :: rest)).bind (lines n d)
      else do
        let (d, rest) ← pair d (c :: rest)
        lines n d (← lineEnd rest)

/-- The text without a byte order mark in front. -/
def withoutMark : List Char → List Char
  | '\uFEFF' :: rest => rest
  | cs => cs

/-- The document that the text spells, as a table. -/
def parse (text : String) : Option Value :=
  let cs := withoutMark text.toList
  (lines (cs.length + 1) ⟨.empty, []⟩ cs).map (·.outline.toValue)

end Document

end Depot.Toml
