import VirtualLink.Text.Quoted

namespace VirtualLink

/-- The setting that a refused value was meant for. -/
inductive Field
  | name | mac | ipv4 | netmask | broadcast | ipv6 | mtu | packet
deriving DecidableEq

/-- The name as a report shows it. -/
def Field.label : Field → String
  | .name => "Name"
  | .mac => "Mac"
  | .ipv4 => "Ipv4"
  | .netmask => "Netmask"
  | .broadcast => "Broadcast"
  | .ipv6 => "Ipv6"
  | .mtu => "Mtu"
  | .packet => "Packet"

def Field.describe : Field → String
  | .name => "interface name"
  | .mac => "MAC address"
  | .ipv4 => "IPv4 address"
  | .netmask => "IPv4 netmask"
  | .broadcast => "IPv4 broadcast"
  | .ipv6 => "IPv6 address"
  | .mtu => "MTU"
  | .packet => "packet"

/-- Size of the kernel's name field, its terminating zero included. -/
def nameFieldSize : Nat := 16

/-- Every internet module forwards a datagram of 68 octets. -/
def minMtu : UInt32 := 68

/-- The largest MTU that a kernel reports, that of its loopback. -/
def maxMtu : UInt32 := 65536

def defaultMtu : UInt32 := 1500

/-- The rule that a value broke. -/
inductive Rule
  | nameEmpty
  | nameTooLong
  | nameInvalidChar (c : Char)
  | nameReserved
  | macGroupCount
  | macGroupWidth
  | macHexDigit
  | macMulticast
  | macZero
  | ipv4Syntax
  | ipv4OctetCount
  | ipv4OctetRange
  | netmaskNotContiguous
  | ipv6Syntax
  | ipv6Duplicate
  | mtuTooSmall
  | mtuTooLarge
  | requiresIpv4
  | packetTooSmall
  | packetTooLarge
  | lengthPrefixMismatch
deriving DecidableEq

/-- The name as a report shows it, without the argument. -/
def Rule.label : Rule → String
  | .nameEmpty => "NameEmpty"
  | .nameTooLong => "NameTooLong"
  | .nameInvalidChar _ => "NameInvalidChar"
  | .nameReserved => "NameReserved"
  | .macGroupCount => "MacGroupCount"
  | .macGroupWidth => "MacGroupWidth"
  | .macHexDigit => "MacHexDigit"
  | .macMulticast => "MacMulticast"
  | .macZero => "MacZero"
  | .ipv4Syntax => "Ipv4Syntax"
  | .ipv4OctetCount => "Ipv4OctetCount"
  | .ipv4OctetRange => "Ipv4OctetRange"
  | .netmaskNotContiguous => "NetmaskNotContiguous"
  | .ipv6Syntax => "Ipv6Syntax"
  | .ipv6Duplicate => "Ipv6Duplicate"
  | .mtuTooSmall => "MtuTooSmall"
  | .mtuTooLarge => "MtuTooLarge"
  | .requiresIpv4 => "RequiresIpv4"
  | .packetTooSmall => "PacketTooSmall"
  | .packetTooLarge => "PacketTooLarge"
  | .lengthPrefixMismatch => "LengthPrefixMismatch"

def Rule.describe : Rule → String
  | .nameEmpty => "name is empty"
  | .nameTooLong => s!"name must be shorter than {nameFieldSize} bytes"
  | .nameInvalidChar c => "name contains invalid character " ++ Quoted.char c
  | .nameReserved => "name is reserved"
  | .macGroupCount => "expected six hex groups"
  | .macGroupWidth => "each hex group must be two digits"
  | .macHexDigit => "invalid hex digit"
  | .macMulticast => "multicast address cannot be assigned to a link"
  | .macZero => "all-zero address cannot be assigned to a link"
  | .ipv4Syntax => "not a dotted-decimal address"
  | .ipv4OctetCount => "expected four octets"
  | .ipv4OctetRange => "octet out of range 0-255"
  | .netmaskNotContiguous => "netmask bits are not contiguous"
  | .ipv6Syntax => "not a valid IPv6 address"
  | .ipv6Duplicate => "address listed more than once"
  | .mtuTooSmall => s!"below minimum {minMtu}"
  | .mtuTooLarge => s!"above maximum {maxMtu}"
  | .requiresIpv4 => "requires an IPv4 address to be set"
  | .packetTooSmall => s!"payload below {minMtu} bytes"
  | .packetTooLarge => "payload exceeds the limit"
  | .lengthPrefixMismatch => "length prefix does not match payload"

/-- A value that breaks a rule of its field. -/
structure Violation where
  field : Field
  value : String
  rule : Rule
deriving DecidableEq

def Violation.message (v : Violation) : String :=
  s!"invalid {v.field.describe} {Quoted.text v.value}: {v.rule.describe}"

end VirtualLink
