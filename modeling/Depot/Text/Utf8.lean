/-! Bytes read as UTF-8. Where the bytes are ill-formed, the longest run that could still have begun
a character counts as one fault, and reading resumes at the byte that broke it; a reader that has to
show something shows one replacement character per fault. -/

namespace Depot.Text.Utf8

/-- The bytes that may follow a lead byte in second place, and how many follow it in all. -/
def follows? (lead : Nat) : Option (Nat × Nat × Nat) :=
  if lead < 0xC2 then none
  else if lead < 0xE0 then some (0x80, 0xBF, 1)
  else if lead == 0xE0 then some (0xA0, 0xBF, 2)
  else if lead == 0xED then some (0x80, 0x9F, 2)
  else if lead < 0xF0 then some (0x80, 0xBF, 2)
  else if lead == 0xF0 then some (0x90, 0xBF, 3)
  else if lead < 0xF4 then some (0x80, 0xBF, 3)
  else if lead == 0xF4 then some (0x80, 0x8F, 3)
  else none

/-- The bytes after the lead that belong to its character, as far as they are well-formed. -/
def continuation (first last : Nat) : Nat → List UInt8 → List UInt8
  | 0, _ => []
  | _ + 1, [] => []
  | n + 1, b :: bytes =>
    if first ≤ b.toNat && b.toNat ≤ last then b :: continuation 0x80 0xBF n bytes else []

/-- The bits that a lead byte with `n` bytes after it contributes. -/
def leadBits (lead : Nat) : Nat → Nat
  | 1 => lead % 0x20
  | 2 => lead % 0x10
  | _ => lead % 0x08

/-- The character that begins with `lead`, none for a fault, and the number of bytes after the lead
that it takes up. -/
def scalar (lead : UInt8) (bytes : List UInt8) : Option Char × Nat :=
  if lead.toNat < 0x80 then (some (Char.ofNat lead.toNat), 0)
  else match follows? lead.toNat with
    | none => (none, 0)
    | some (first, last, n) =>
      let found := continuation first last n bytes
      if found.length == n then
        (some (Char.ofNat (found.foldl (fun v b => v * 0x40 + b.toNat % 0x40)
          (leadBits lead.toNat n))), n)
      else (none, found.length)

/-- The characters of the bytes, none for each fault. -/
def scalars : List UInt8 → List (Option Char)
  | [] => []
  | lead :: bytes =>
    let found := scalar lead bytes
    found.1 :: scalars (bytes.drop found.2)
termination_by bytes => bytes.length
decreasing_by rw [List.length_drop, List.length_cons]; omega

/-- The text, with a replacement character for each fault. -/
def lossy (bytes : ByteArray) : String :=
  String.ofList ((scalars bytes.toList).map (·.getD '\uFFFD'))

end Depot.Text.Utf8
