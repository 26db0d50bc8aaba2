import VirtualLink.Bytes

namespace VirtualLink.Hex

/-- The value of an ASCII hex digit, in either case. -/
def value? (c : Char) : Option Nat :=
  if c.isDigit then some (c.toNat - '0'.toNat)
  else if 'a' ≤ c ∧ c ≤ 'f' then some (c.toNat - 'a'.toNat + 10)
  else if 'A' ≤ c ∧ c ≤ 'F' then some (c.toNat - 'A'.toNat + 10)
  else none

/-- Two lower-case digits. -/
def ofByte (byte : UInt8) : List Char :=
  [Nat.digitChar (byte.toNat / 16), Nat.digitChar (byte.toNat % 16)]

def ofBytes (bytes : Bytes) : List Char :=
  bytes.flatMap ofByte

/-- Reads hex digits, most significant first; `none` if some character is no digit. -/
def number? (digits : List Char) : Option Nat :=
  digits.foldlM (fun acc c => (value? c).map (16 * acc + ·)) 0

end VirtualLink.Hex
