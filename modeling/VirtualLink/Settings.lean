import VirtualLink.Address.Ipv6
import VirtualLink.Address.Mac
import VirtualLink.Text.Blank

namespace VirtualLink

/-- What an interface is to give to its link. -/
structure Settings where
  mac : Option Mac := none
  ipv4 : Option Ipv4 := none
  netmask : Option Ipv4 := none
  broadcast : Option Ipv4 := none
  ipv6 : List Ipv6 := []
  mtu : UInt32 := defaultMtu
deriving DecidableEq, Inhabited

/-- A value, or the rule it breaks. -/
abbrev Checked (α : Type) := Except Violation α

/-- Characters that no interface name may hold: blanks, controls, and those that a path, an alias or a
pattern gives a meaning. -/
def isForbiddenInName (c : Char) : Bool :=
  isBlank c || isControl c || c == '/' || c == ':' || c == '%'

def checkName (name : String) : Checked Unit :=
  if name.isEmpty then .error ⟨.name, name, .nameEmpty⟩
  else if (utf8 name).length ≥ nameFieldSize then .error ⟨.name, name, .nameTooLong⟩
  else if name = "." ∨ name = ".." then .error ⟨.name, name, .nameReserved⟩
  else
    match name.toList.find? isForbiddenInName with
    | some c => .error ⟨.name, name, .nameInvalidChar c⟩
    | none => .ok ()

def Mac.Fault.rule : Mac.Fault → Rule
  | .groupCount => .macGroupCount
  | .groupWidth => .macGroupWidth
  | .hexDigit => .macHexDigit

/-- Only a unicast address other than zero may be given to a link. -/
def checkMac (mac : Mac) : Checked Unit :=
  if mac.isZero then .error ⟨.mac, mac.toText, .macZero⟩
  else if mac.isMulticast then .error ⟨.mac, mac.toText, .macMulticast⟩
  else .ok ()

def readMac (text : String) : Checked Mac :=
  match Mac.parse text with
  | .error fault => .error ⟨.mac, text, fault.rule⟩
  | .ok mac => (checkMac mac).map fun _ => mac

/-- A dotted quad meant for `field`. -/
def readQuad (field : Field) (text : String) : Checked Ipv4 :=
  match Ipv4.parse text with
  | .error rule => .error ⟨field, text, rule⟩
  | .ok addr => .ok addr

def readIpv4 (text : String) : Checked Ipv4 :=
  readQuad .ipv4 text

def readBroadcast (text : String) : Checked Ipv4 :=
  readQuad .broadcast text

def checkNetmask (mask : Ipv4) : Checked Unit :=
  if mask.isContiguous then .ok () else .error ⟨.netmask, mask.toText, .netmaskNotContiguous⟩

def readNetmask (text : String) : Checked Ipv4 := do
  let mask ← readQuad .netmask text
  checkNetmask mask
  return mask

def readIpv6 (text : String) : Checked Ipv6 :=
  match Ipv6.parse? text with
  | some addr => .ok addr
  | none => .error ⟨.ipv6, text, .ipv6Syntax⟩

/-- Appends the addresses of the texts to `known`, refusing one that is there already. -/
def appendIpv6List (known : List Ipv6) : List String → Checked (List Ipv6)
  | [] => .ok known
  | text :: rest => do
    let addr ← readIpv6 text
    if addr ∈ known then .error ⟨.ipv6, text, .ipv6Duplicate⟩
    else appendIpv6List (known ++ [addr]) rest

def readIpv6List (texts : List String) : Checked (List Ipv6) :=
  appendIpv6List [] texts

def checkMtu (mtu : UInt32) : Checked UInt32 :=
  if mtu < minMtu then .error ⟨.mtu, toString mtu, .mtuTooSmall⟩
  else if mtu > maxMtu then .error ⟨.mtu, toString mtu, .mtuTooLarge⟩
  else .ok mtu

/-- Refuses the first address that occurs before itself. -/
def checkDistinct (known : List Ipv6) : List Ipv6 → Checked Unit
  | [] => .ok ()
  | addr :: rest =>
    if addr ∈ known then .error ⟨.ipv6, addr.toText, .ipv6Duplicate⟩
    else checkDistinct (known ++ [addr]) rest

/-- A netmask or a broadcast address says nothing without an address. -/
def checkCompanion (field : Field) (ipv4 companion : Option Ipv4) : Checked Unit :=
  match companion, ipv4 with
  | some addr, none => .error ⟨field, addr.toText, .requiresIpv4⟩
  | _, _ => .ok ()

/-- Checks every field on its own, and the rules between fields. -/
def Settings.check (settings : Settings) : Checked Unit := do
  settings.mac.forM checkMac
  settings.netmask.forM checkNetmask
  checkCompanion .netmask settings.ipv4 settings.netmask
  checkCompanion .broadcast settings.ipv4 settings.broadcast
  checkDistinct [] settings.ipv6
  discard (checkMtu settings.mtu)

end VirtualLink
