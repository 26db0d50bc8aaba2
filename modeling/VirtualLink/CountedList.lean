import VirtualLink.Settings
import VirtualLink.Error

namespace VirtualLink.CountedList

/-- The items behind their number in decimal. -/
def encode (items : List String) : List String :=
  toString items.length :: items

/-- Digits only, and a number that a word of 64 bits can hold. Leading zeros are read. -/
def count? (text : String) : Option Nat :=
  let digits := text.toList
  if digits = [] ∨ ¬ digits.all Char.isDigit then none
  else
    let n := Nat.ofDigitChars 10 digits 0
    if n < UInt64.size then some n else none

/-- The items behind a count that agrees with them. -/
def decode : List String → Except Error (List String)
  | [] => .error (.badCount "")
  | head :: items =>
    match count? head with
    | none => .error (.badCount head)
    | some declared =>
      if declared = items.length then .ok items else .error (.countMismatch declared items.length)

def encodeIpv6 (addrs : List Ipv6) : List String :=
  encode (addrs.map Ipv6.toText)

def decodeIpv6 (wire : List String) : Except Error (List Ipv6) := do
  (← decode wire).mapM fun text => (readIpv6 text).mapError Error.violation

end VirtualLink.CountedList
