import MessageBox.Text.Space

/-!
# Bytes in letters

Three bytes are written as four characters of an alphabet of 64; equals signs fill up the last four.
-/

namespace MessageBox.Text.Base64

/-- The value of a character of the alphabet. -/
def value? (c : Char) : Option Nat :=
  if 'A' ≤ c ∧ c ≤ 'Z' then some (c.toNat - 'A'.toNat)
  else if 'a' ≤ c ∧ c ≤ 'z' then some (c.toNat - 'a'.toNat + 26)
  else if '0' ≤ c ∧ c ≤ '9' then some (c.toNat - '0'.toNat + 52)
  else if c = '+' then some 62
  else if c = '/' then some 63
  else none

/-- Reads four characters at a time. Bits that belong to no byte must be zero. -/
def decode : List Char → Option (List UInt8)
  | [] => some []
  | [a, b, '=', '='] => do
    let bits := (← value? a) * 64 + (← value? b)
    if bits % 16 = 0 then some [.ofNat (bits / 16)] else none
  | [a, b, c, '='] => do
    let bits := ((← value? a) * 64 + (← value? b)) * 64 + (← value? c)
    if bits % 4 = 0 then some [.ofNat (bits / 1024), .ofNat (bits / 4 % 256)] else none
  | a :: b :: c :: d :: rest => do
    let bits := (((← value? a) * 64 + (← value? b)) * 64 + (← value? c)) * 64 + (← value? d)
    return .ofNat (bits / 65536) :: .ofNat (bits / 256 % 256) :: .ofNat (bits % 256) :: (← decode rest)
  | _ => none

/-- The text whose bytes are written, with blanks anywhere between them. -/
def decodeText? (text : String) : Option String := do
  String.fromUTF8? ⟨(← decode (text.toList.filter (!isSpace ·))).toArray⟩

end MessageBox.Text.Base64
