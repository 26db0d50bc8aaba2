import VirtualLink.Bytes
import VirtualLink.Text.Fields
import VirtualLink.Violation

namespace VirtualLink

/-- An IPv4 address by its four octets. -/
structure Ipv4 where
  a : UInt8
  b : UInt8
  c : UInt8
  d : UInt8
deriving DecidableEq, Inhabited

namespace Ipv4

def unspecified : Ipv4 := ⟨0, 0, 0, 0⟩

def octets (addr : Ipv4) : Bytes :=
  [addr.a, addr.b, addr.c, addr.d]

/-- The address as a number, first octet most significant. -/
def word (addr : Ipv4) : UInt32 :=
  (addr.a.toUInt32 <<< 24) ||| (addr.b.toUInt32 <<< 16) ||| (addr.c.toUInt32 <<< 8) ||| addr.d.toUInt32

def ofWord (word : UInt32) : Ipv4 :=
  ⟨(word >>> 24).toUInt8, (word >>> 16).toUInt8, (word >>> 8).toUInt8, word.toUInt8⟩

/-- Four decimal octets without leading zeros, dots between them. -/
def chars (addr : Ipv4) : List Char :=
  List.intercalate ['.'] (addr.octets.map fun octet => Nat.toDigits 10 octet.toNat)

def toText (addr : Ipv4) : String :=
  String.ofList addr.chars

/-- A decimal octet. A leading zero is refused, since some readers take it for octal. -/
def octet (digits : List Char) : Except Rule UInt8 :=
  if digits = [] ∨ ¬ digits.all Char.isDigit then .error .ipv4Syntax
  else if digits.length > 1 ∧ digits.head? = some '0' then .error .ipv4Syntax
  else if digits.length > 3 ∨ Nat.ofDigitChars 10 digits 0 > 255 then .error .ipv4OctetRange
  else .ok (UInt8.ofNat (Nat.ofDigitChars 10 digits 0))

def ofChars (text : List Char) : Except Rule Ipv4 :=
  match fields '.' text with
  | [a, b, c, d] => do
    return ⟨← octet a, ← octet b, ← octet c, ← octet d⟩
  | _ => .error .ipv4OctetCount

/-- Reads a dotted quad; the first bad octet decides the broken rule. -/
def parse (text : String) : Except Rule Ipv4 :=
  ofChars text.toList

/-- Ones in front and zeros behind: the complement is one less than a power of two, so it shares no bit
with its successor. For `0.0.0.0` the successor wraps to zero. -/
def isContiguous (mask : Ipv4) : Bool :=
  (~~~mask.word + 1) &&& ~~~mask.word == 0

end Ipv4

end VirtualLink
