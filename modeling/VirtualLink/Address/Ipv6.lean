import VirtualLink.Address.Ipv4
import VirtualLink.Text.Hex

namespace VirtualLink

/-- An IPv6 address by its eight groups of sixteen bits. -/
structure Ipv6 where
  groups : Vector UInt16 8
deriving DecidableEq, Inhabited

namespace Ipv6

def octets (addr : Ipv6) : Bytes :=
  addr.groups.toList.flatMap fun (group : UInt16) => [(group >>> 8).toUInt8, group.toUInt8]

def joinOctets : Bytes → List UInt16
  | high :: low :: rest => (high.toUInt16 <<< 8 ||| low.toUInt16) :: joinOctets rest
  | _ => []

def ofGroups? : List UInt16 → Option Ipv6
  | [a, b, c, d, e, f, g, h] => some ⟨#v[a, b, c, d, e, f, g, h]⟩
  | _ => none

def ofOctets? (bytes : Bytes) : Option Ipv6 :=
  if bytes.length = 16 then ofGroups? (joinOctets bytes) else none

/-- How many groups from the front are zero. -/
def zerosAhead (groups : List UInt16) : Nat :=
  (groups.takeWhile (· == 0)).length

/-- Start and length of the longest run of zero groups, of equal ones the first. -/
def longestZeroRun (groups : List UInt16) : Nat × Nat :=
  (List.range groups.length).foldl
    (fun best start =>
      let length := zerosAhead (groups.drop start)
      if length > best.2 then (start, length) else best)
    (0, 0)

/-- Groups in hex without leading zeros, colons between them. -/
def groupChars (groups : List UInt16) : List Char :=
  List.intercalate [':'] (groups.map fun group => Nat.toDigits 16 group.toNat)

/-- The longest run of at least two zero groups is written as two colons. -/
def compressedChars (groups : List UInt16) : List Char :=
  let run := longestZeroRun groups
  if run.2 ≥ 2 then groupChars (groups.take run.1) ++ [':', ':'] ++ groupChars (groups.drop (run.1 + run.2))
  else groupChars groups

/-- An address that carries an IPv4 address behind `::ffff:` ends in a dotted quad. -/
def chars (addr : Ipv6) : List Char :=
  match addr.groups.toList with
  | [0, 0, 0, 0, 0, 0xFFFF, high, low] =>
    "::ffff:".toList ++ (Ipv4.ofWord ((high.toUInt32 <<< 16) ||| low.toUInt32)).chars
  | groups => compressedChars groups

def toText (addr : Ipv6) : String :=
  String.ofList addr.chars

/-- One to four hex digits. -/
def group? (digits : List Char) : Option UInt16 :=
  if digits = [] ∨ digits.length > 4 then none
  else (Hex.number? digits).map UInt16.ofNat

/-- Fields that are hex groups, but for the last one, which may be a dotted quad and then stands for two. -/
def tailGroups? : List (List Char) → Option (List UInt16)
  | [] => some []
  | [last] =>
    match Ipv4.ofChars last with
    | .ok quad => some (joinOctets quad.octets)
    | .error _ => (group? last).map ([·])
  | field :: rest => do return (← group? field) :: (← tailGroups? rest)

/-- The text in front of and behind the first two colons in a row. -/
def splitGap? : List Char → Option (List Char × List Char)
  | ':' :: ':' :: rest => some ([], rest)
  | c :: rest => (splitGap? rest).map fun (front, back) => (c :: front, back)
  | [] => none

/-- The fields of a side of the gap; an empty side has none. -/
def sideFields (text : List Char) : List (List Char) :=
  if text = [] then [] else fields ':' text

/-- Reads eight groups, or fewer around one `::`, which stands for at least one zero group. -/
def ofChars? (text : List Char) : Option Ipv6 :=
  match splitGap? text with
  | none => do ofGroups? (← tailGroups? (fields ':' text))
  | some (front, back) => do
    let head ← (sideFields front).mapM group?
    let tail ← tailGroups? (sideFields back)
    if head.length + tail.length ≤ 7 then
      ofGroups? (head ++ List.replicate (8 - head.length - tail.length) 0 ++ tail)
    else none

def parse? (text : String) : Option Ipv6 :=
  ofChars? text.toList

end Ipv6

end VirtualLink
