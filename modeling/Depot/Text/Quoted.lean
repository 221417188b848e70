import Depot.Text.Unprintable

/-! Quoted text as diagnostics show it. Quotes, backslashes and the usual control characters have
short escapes, other characters that cannot be shown are written by number in lower-case
hexadecimal, and all else, an apostrophe included, stands for itself. -/

namespace Depot.Text

/-- A character's number between braces, after a backslash and the letter u. -/
def escapedByNumber (c : Char) : List Char :=
  ['\x5c', 'u', '\x7b'] ++ Nat.toDigits 16 c.toNat ++ ['\x7d']

/-- A character inside quotes. -/
def escapedChar (c : Char) : List Char :=
  match c with
  | '\x00' => ['\x5c', '0']
  | '\t' => ['\x5c', 't']
  | '\r' => ['\x5c', 'r']
  | '\n' => ['\x5c', 'n']
  | '\x22' => ['\x5c', '\x22']
  | '\x5c' => ['\x5c', '\x5c']
  | c => if c.toNat < 0x20 || c.toNat == 0x7F || isUnprintable c then escapedByNumber c else [c]

/-- The text between quotes. -/
def quoted (s : String) : String :=
  String.ofList ('\x22' :: s.toList.flatMap escapedChar ++ ['\x22'])

end Depot.Text
