import VirtualLink.Checksum
import VirtualLink.Text.Fields
import VirtualLink.Text.Hex

namespace VirtualLink

/-- A hardware address: six octets, the first one sent first. -/
structure Mac where
  octets : Vector UInt8 6
deriving DecidableEq, Inhabited

namespace Mac

def zero : Mac := ⟨#v[0, 0, 0, 0, 0, 0]⟩

def isZero (mac : Mac) : Bool :=
  mac == zero

/-- The lowest bit of the first octet marks an address of a group. -/
def isMulticast (mac : Mac) : Bool :=
  mac.octets[0] &&& 1 != 0

def isUnicast (mac : Mac) : Bool :=
  !mac.isMulticast

/-- The second lowest bit of the first octet marks an address that no manufacturer assigned. -/
def isLocal (mac : Mac) : Bool :=
  mac.octets[0] &&& 2 != 0

def toBytes (mac : Mac) : Bytes :=
  mac.octets.toList

def ofBytes? : Bytes → Option Mac
  | [a, b, c, d, e, f] => some ⟨#v[a, b, c, d, e, f]⟩
  | _ => none

/-- A locally administered unicast address that depends on the id and the name only: the second octet folds
the id, the last four are a checksum of name and id. -/
def generate (id : UInt32) (name : String) : Mac :=
  let idBytes := wordBytes id
  let sum := Checksum.crc32 (utf8 name ++ idBytes)
  ⟨#v[0x02, idBytes.foldl (· ^^^ ·) 0, (sum >>> 24).toUInt8, (sum >>> 16).toUInt8, (sum >>> 8).toUInt8, sum.toUInt8]⟩

/-- Groups of two lower-case hex digits with a separator between them. -/
def groupText (separator : List Char) (mac : Mac) : List Char :=
  List.intercalate separator (mac.toBytes.map Hex.ofByte)

def toText (mac : Mac) : String :=
  String.ofList (mac.groupText [':'])

/-- Why a text is no hardware address. -/
inductive Fault
  | groupCount
  | groupWidth
  | hexDigit
deriving DecidableEq

/-- The name as a report shows it. -/
def Fault.label : Fault → String
  | .groupCount => "GroupCount"
  | .groupWidth => "GroupWidth"
  | .hexDigit => "Hex"

def Fault.message : Fault → String
  | .groupCount => "expected six hex groups"
  | .groupWidth => "each hex group must be two digits"
  | .hexDigit => "invalid hex digit"

def pairs : List Char → List (List Char)
  | a :: b :: rest => [a, b] :: pairs rest
  | [a] => [[a]]
  | [] => []

/-- Colons separate if there is one, else hyphens; twelve ASCII characters without either go by pairs. -/
def groups? (text : List Char) : Option (List (List Char)) :=
  if ':' ∈ text then some (fields ':' text)
  else if '-' ∈ text then some (fields '-' text)
  else if text.length = 12 ∧ byteWidth text = 12 then some (pairs text)
  else none

/-- One group must be two bytes wide and consist of hex digits. -/
def octet (group : List Char) : Except Fault UInt8 :=
  if byteWidth group ≠ 2 then .error .groupWidth
  else
    match Hex.number? group with
    | some n => .ok (UInt8.ofNat n)
    | none => .error .hexDigit

def ofChars (text : List Char) : Except Fault Mac :=
  match groups? text with
  | some [a, b, c, d, e, f] => do
    return ⟨#v[← octet a, ← octet b, ← octet c, ← octet d, ← octet e, ← octet f]⟩
  | _ => .error .groupCount

/-- Reads six hex groups; the first bad group decides the fault. -/
def parse (text : String) : Except Fault Mac :=
  ofChars text.toList

end Mac

end VirtualLink
