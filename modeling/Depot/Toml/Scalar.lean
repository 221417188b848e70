import Depot.Text.Decimal
import Depot.Toml.Value

/-! The scalars of a TOML document as they are written. A reader takes the characters and answers
what they begin with and what follows it, or nothing when they do not begin with it. Underscores
stand between digits only; an integer fits 64 bits with its sign; a float that is too large for a
double is refused; a day exists in its month and its year. -/

namespace Depot.Toml

def isBlankChar (c : Char) : Bool :=
  c == ' ' || c == '\t'

def skipBlanks (cs : List Char) : List Char :=
  cs.dropWhile isBlankChar

/-- What follows a line break: a line feed, with or without a carriage return before it. -/
def newline? : List Char → Option (List Char)
  | '\n' :: rest => some rest
  | '\r' :: '\n' :: rest => some rest
  | _ => none

/-- The characters that stand for themselves in comments and in texts: all but the control
characters, of which the tab is allowed. -/
def isPlain (c : Char) : Bool :=
  c == '\t' || (0x20 ≤ c.toNat && c.toNat != 0x7F)

/-- What follows a comment, if one begins here. -/
def skipComment : List Char → List Char
  | '#' :: rest => rest.dropWhile isPlain
  | cs => cs

namespace Scalar

/-- Further digits after the first one, each of which may have an underscore before it. -/
def moreDigits (p : Char → Bool) : List Char → Option (List Char × List Char)
  | [] => some ([], [])
  | '_' :: c :: rest =>
    if p c then (moreDigits p rest).map fun (digits, after) => (c :: digits, after) else none
  | ['_'] => none
  | c :: rest =>
    if p c then (moreDigits p rest).map fun (digits, after) => (c :: digits, after)
    else some ([], c :: rest)

/-- One or more digits. -/
def digits (p : Char → Bool) : List Char → Option (List Char × List Char)
  | [] => none
  | c :: rest =>
    if p c then (moreDigits p rest).map fun (more, after) => (c :: more, after) else none

def isHexDigit (c : Char) : Bool :=
  Text.isDigit c || ('a' ≤ c && c ≤ 'f') || ('A' ≤ c && c ≤ 'F')

def hexDigitValue (c : Char) : Nat :=
  if Text.isDigit c then Text.digitValue c
  else if 'a' ≤ c then c.toNat - 'a'.toNat + 10
  else c.toNat - 'A'.toNat + 10

def radixValue (radix : Nat) (ds : List Char) : Nat :=
  ds.foldl (fun n c => radix * n + hexDigitValue c) 0

/-- An optional sign: whether it is a minus. -/
def sign : List Char → Bool × List Char
  | '+' :: rest => (false, rest)
  | '-' :: rest => (true, rest)
  | cs => (false, cs)

/-- A decimal number without superfluous zeros in front: its digits. -/
def decimalDigits : List Char → Option (List Char × List Char)
  | '0' :: rest => some (['0'], rest)
  | cs => digits Text.isDigit cs

/-- A value that fits 64 bits with its sign. -/
def integer? (n : Int) : Option Value :=
  if Int64.minValue.toInt ≤ n ∧ n ≤ Int64.maxValue.toInt then some (.integer n) else none

def radixInteger (radix : Nat) (p : Char → Bool) (cs : List Char) : Option (Value × List Char) := do
  let (ds, after) ← digits p cs
  return (← integer? (radixValue radix ds), after)

/-- An integer in decimal digits, or after `0x`, `0o` or `0b` in those of another radix. -/
def integer : List Char → Option (Value × List Char)
  | '0' :: 'x' :: rest => radixInteger 16 isHexDigit rest
  | '0' :: 'o' :: rest => radixInteger 8 (fun c => '0' ≤ c && c ≤ '7') rest
  | '0' :: 'b' :: rest => radixInteger 2 (fun c => c == '0' || c == '1') rest
  | cs => do
    let (negative, unsigned) := sign cs
    let (ds, after) ← decimalDigits unsigned
    let n : Int := Text.decimalValue ds
    return (← integer? (if negative then -n else n), after)

/-- Whether `m` times ten to the `e`-th rounds to no finite double: at least halfway from the
largest one to the next power of two. -/
def overflows (m : Nat) (e : Int) : Bool :=
  let limit := (Nat.pow 2 54 - 1) * Nat.pow 2 970
  let magnitude := (Nat.toDigits 10 m).length + e
  if m = 0 ∨ magnitude < 300 then false
  else if magnitude > 320 then true
  else if e < 0 then limit * Nat.pow 10 e.natAbs ≤ m
  else limit ≤ m * Nat.pow 10 e.toNat

/-- The digits after a point; none when there is no point. -/
def fraction : List Char → Option (List Char × List Char)
  | '.' :: rest => digits Text.isDigit rest
  | cs => some ([], cs)

/-- The exponent of ten; none when there is none. -/
def exponent : List Char → Option (Option Int × List Char)
  | c :: rest =>
    if c == 'e' || c == 'E' then do
      let (negative, unsigned) := sign rest
      let (ds, after) ← digits Text.isDigit unsigned
      let n : Int := Text.decimalValue ds
      return (some (if negative then -n else n), after)
    else some (none, c :: rest)
  | [] => some (none, [])

/-- A number that is not finite, by its name. -/
def special (cs : List Char) : Option (Value × List Char) :=
  match sign cs with
  | (negative, 'i' :: 'n' :: 'f' :: rest) =>
    some (.float (if negative then "-inf" else "inf"), rest)
  | (_, 'n' :: 'a' :: 'n' :: rest) => some (.float "nan", rest)
  | _ => none

/-- A number with a fraction, an exponent or both. -/
def finite (cs : List Char) : Option (Value × List Char) := do
  let (negative, unsigned) := sign cs
  let (whole, afterWhole) ← decimalDigits unsigned
  let (part, afterPart) ← fraction afterWhole
  let (power, after) ← exponent afterPart
  if part.isEmpty && power.isNone then none
  else
    let m := Text.decimalValue (whole ++ part)
    let e := power.getD 0 - part.length
    if !negative && overflows m e then none
    else
      let literal := (cs.take (cs.length - after.length)).filter (· != '_')
      return (.float (String.ofList literal), after)

def float (cs : List Char) : Option (Value × List Char) :=
  (finite cs).or (special cs)

/-- A number of exactly so many digits within bounds. -/
def fixed (count least most : Nat) (cs : List Char) : Option (Nat × List Char) :=
  let ds := cs.take count
  let n := Text.decimalValue ds
  if ds.length = count ∧ ds.all Text.isDigit ∧ least ≤ n ∧ n ≤ most then
    some (n, cs.drop count)
  else none

def expect (c : Char) : List Char → Option (List Char)
  | d :: rest => if d = c then some rest else none
  | [] => none

def padded (count n : Nat) : String :=
  let ds := Nat.toDigits 10 n
  String.ofList (List.replicate (count - ds.length) '0' ++ ds)

def daysIn (year month : Nat) : Nat :=
  if month = 2 then
    if year % 4 = 0 ∧ (year % 100 ≠ 0 ∨ year % 400 = 0) then 29 else 28
  else if month = 4 ∨ month = 6 ∨ month = 9 ∨ month = 11 then 30
  else 31

def date (cs : List Char) : Option (String × List Char) := do
  let (year, cs) ← fixed 4 0 9999 cs
  let (month, cs) ← fixed 2 1 12 (← expect '-' cs)
  let (day, cs) ← fixed 2 1 (daysIn year month) (← expect '-' cs)
  return (padded 4 year ++ "-" ++ padded 2 month ++ "-" ++ padded 2 day, cs)

/-- The digits of a second's fraction, of which nine count, without zeros at the end. -/
def secondFraction : List Char → Option (String × List Char)
  | '.' :: rest =>
    let ds := rest.takeWhile Text.isDigit
    let kept := ((ds.take 9).reverse.dropWhile (· == '0')).reverse
    if ds.isEmpty then none
    else some (String.ofList (if kept.isEmpty then [] else '.' :: kept), rest.drop ds.length)
  | cs => some ("", cs)

def time (cs : List Char) : Option (String × List Char) := do
  let (hour, cs) ← fixed 2 0 23 cs
  let (minute, cs) ← fixed 2 0 59 (← expect ':' cs)
  let (second, cs) ← fixed 2 0 60 (← expect ':' cs)
  let (part, cs) ← secondFraction cs
  return (padded 2 hour ++ ":" ++ padded 2 minute ++ ":" ++ padded 2 second ++ part, cs)

/-- The distance from universal time; nothing when none is given. -/
def offset (cs : List Char) : Option (String × List Char) :=
  match cs with
  | c :: rest =>
    if c == 'Z' || c == 'z' then some ("Z", rest)
    else if c == '+' || c == '-' then do
      let (hour, after) ← fixed 2 0 23 rest
      let (minute, after) ← fixed 2 0 59 (← expect ':' after)
      let shown := if c == '-' && hour + minute ≠ 0 then "-" else "+"
      return (shown ++ padded 2 hour ++ ":" ++ padded 2 minute, after)
    else some ("", cs)
  | [] => some ("", [])

def isTimeMark (c : Char) : Bool :=
  c == 'T' || c == 't' || c == ' '

/-- The time after a date, with its offset; nothing when none follows. -/
def timeAfterDate (cs : List Char) : String × List Char :=
  let found : Option (String × List Char) := do
    let c ← cs.head?
    if isTimeMark c then
      let (clock, after) ← time cs.tail
      let (shift, after) ← offset after
      return ("T" ++ clock ++ shift, after)
    else none
  found.getD ("", cs)

/-- A date, a time, or both. -/
def moment (cs : List Char) : Option (Value × List Char) :=
  match date cs with
  | some (day, rest) =>
    let (clock, after) := timeAfterDate rest
    some (.moment (day ++ clock), after)
  | none => (time cs).map fun (clock, after) => (.moment clock, after)

/-- The date, time or both that the whole content of a text spells. -/
def momentOfText? (content : String) : Option Value :=
  match moment content.toList with
  | some (v, []) => some v
  | _ => none

/-- A date, a time or a number. -/
def number (cs : List Char) : Option (Value × List Char) :=
  ((moment cs).or (float cs)).or (integer cs)

/-- The character that an escape stands for, after the backslash, and the length of the escape. -/
def escape : List Char → Option (Char × Nat)
  | 'b' :: _ => some ('\x08', 1)
  | 't' :: _ => some ('\t', 1)
  | 'n' :: _ => some ('\n', 1)
  | 'f' :: _ => some ('\x0c', 1)
  | 'r' :: _ => some ('\r', 1)
  | '\x22' :: _ => some ('\x22', 1)
  | '\x5c' :: _ => some ('\x5c', 1)
  | 'u' :: rest => (codePoint 4 rest).map (·, 5)
  | 'U' :: rest => (codePoint 8 rest).map (·, 9)
  | _ => none
where
  /-- The character of so many hexadecimal digits. -/
  codePoint (count : Nat) (cs : List Char) : Option Char :=
    let ds := cs.take count
    let n := radixValue 16 ds
    if ds.length = count ∧ ds.all isHexDigit ∧ n.isValidChar then some (Char.ofNat n) else none

/-- The rest of a text on one line with escapes. -/
def basicBody (cs : List Char) : Option (List Char × List Char) :=
  match cs with
  | [] => none
  | '\x22' :: rest => some ([], rest)
  | '\x5c' :: rest => do
    let (c, length) ← escape rest
    (basicBody (rest.drop length)).map fun (more, after) => (c :: more, after)
  | c :: rest =>
    if isPlain c then (basicBody rest).map fun (more, after) => (c :: more, after) else none
termination_by cs.length
decreasing_by all_goals simp; try omega

/-- The rest of a text on one line without escapes. -/
def literalBody : List Char → Option (List Char × List Char)
  | [] => none
  | '\x27' :: rest => some ([], rest)
  | c :: rest =>
    if isPlain c then (literalBody rest).map fun (more, after) => (c :: more, after) else none

/-- What a closing mark of three quotes leaves: up to two more quotes still belong to the text. -/
def quotesAtEnd (quote : Char) : List Char → List Char × List Char
  | c :: d :: rest =>
    if c = quote ∧ d = quote then ([c, d], rest)
    else if c = quote then ([c], d :: rest)
    else ([], c :: d :: rest)
  | [c] => if c = quote then ([c], []) else ([], [c])
  | [] => ([], [])

/-- What follows a backslash that joins lines: the blanks, the line break and all blank text after
it. -/
def joinedLines? (cs : List Char) : Option (List Char) :=
  (newline? (skipBlanks cs)).map skipAll
where
  skipAll : List Char → List Char
    | '\r' :: '\n' :: rest => skipAll rest
    | c :: rest => if isBlankChar c || c == '\n' then skipAll rest else c :: rest
    | [] => []

theorem length_joinedLines?_skipAll (cs : List Char) :
    (joinedLines?.skipAll cs).length ≤ cs.length := by
  fun_induction joinedLines?.skipAll cs <;> simp_all <;> omega

theorem length_lt_of_joinedLines? {cs rest : List Char} (h : joinedLines? cs = some rest) :
    rest.length < cs.length := by
  unfold joinedLines? at h
  obtain ⟨after, hafter, rfl⟩ := Option.map_eq_some_iff.1 h
  have h₁ : (skipBlanks cs).length ≤ cs.length := (List.dropWhile_suffix _).length_le
  have h₂ : after.length < (skipBlanks cs).length := by
    unfold newline? at hafter
    split at hafter
    · rename_i heq; cases hafter; rw [heq, List.length_cons]; omega
    · rename_i heq; cases hafter; rw [heq, List.length_cons, List.length_cons]; omega
    · simp at hafter
  have h₃ := length_joinedLines?_skipAll after
  omega

/-- The rest of a text over several lines with escapes. Every line break in it is a line feed. -/
def multilineBasicBody (cs : List Char) : Option (List Char × List Char) :=
  match cs with
  | [] => none
  | '\x22' :: '\x22' :: '\x22' :: rest => some (quotesAtEnd '\x22' rest)
  | '\x22' :: rest => (multilineBasicBody rest).map fun (more, after) => ('\x22' :: more, after)
  | '\x5c' :: rest =>
    match _joined : joinedLines? rest with
    | some following => multilineBasicBody following
    | none => do
      let (c, length) ← escape rest
      (multilineBasicBody (rest.drop length)).map fun (more, after) => (c :: more, after)
  | '\r' :: '\n' :: rest => (multilineBasicBody rest).map fun (more, after) => ('\n' :: more, after)
  | c :: rest =>
    if isPlain c || c == '\n' then
      (multilineBasicBody rest).map fun (more, after) => (c :: more, after)
    else none
termination_by cs.length
decreasing_by
  all_goals first
    | exact Nat.lt_succ_of_lt (length_lt_of_joinedLines? _joined)
    | (simp; try omega)

/-- The rest of a text over several lines without escapes. Every line break in it is a line feed. -/
def multilineLiteralBody : List Char → Option (List Char × List Char)
  | [] => none
  | '\x27' :: '\x27' :: '\x27' :: rest => some (quotesAtEnd '\x27' rest)
  | '\r' :: '\n' :: rest =>
    (multilineLiteralBody rest).map fun (more, after) => ('\n' :: more, after)
  | c :: rest =>
    if isPlain c || c == '\n' then
      (multilineLiteralBody rest).map fun (more, after) => (c :: more, after)
    else none

/-- The characters without a line break at their start. -/
def skipNewline (cs : List Char) : List Char :=
  (newline? cs).getD cs

/-- A text on one line, between quotes or apostrophes. -/
def lineText : List Char → Option (String × List Char)
  | '\x22' :: rest => (basicBody rest).map fun (content, after) => (String.ofList content, after)
  | '\x27' :: rest => (literalBody rest).map fun (content, after) => (String.ofList content, after)
  | _ => none

/-- A text in any of its four forms. -/
def text : List Char → Option (String × List Char)
  | '\x22' :: '\x22' :: '\x22' :: rest =>
    (multilineBasicBody (skipNewline rest)).map fun (content, after) =>
      (String.ofList content, after)
  | '\x27' :: '\x27' :: '\x27' :: rest =>
    (multilineLiteralBody (skipNewline rest)).map fun (content, after) =>
      (String.ofList content, after)
  | cs => lineText cs

def boolean : List Char → Option (Value × List Char)
  | 't' :: 'r' :: 'u' :: 'e' :: rest => some (.boolean true, rest)
  | 'f' :: 'a' :: 'l' :: 's' :: 'e' :: rest => some (.boolean false, rest)
  | _ => none

end Scalar

end Depot.Toml
