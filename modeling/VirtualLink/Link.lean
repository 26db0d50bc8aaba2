import VirtualLink.Address.Ipv6
import VirtualLink.Address.Mac

namespace VirtualLink

/-- A tap carries Ethernet frames, a tun bare IP packets. -/
inductive Kind
  | tap | tun
deriving DecidableEq, Inhabited

namespace Kind

def isTap (kind : Kind) : Bool :=
  kind == .tap

def toText : Kind → String
  | .tap => "tap"
  | .tun => "tun"

def ofText? : String → Option Kind
  | "tap" => some .tap
  | "tun" => some .tun
  | _ => none

/-- The name as a value is shown. -/
def label : Kind → String
  | .tap => "Tap"
  | .tun => "Tun"

end Kind

/-- A created link goes away with its queues; an attached one was there before and stays. -/
inductive Origin
  | created | attached
deriving DecidableEq, Inhabited

def Origin.label : Origin → String
  | .created => "Created"
  | .attached => "Attached"

/-- What a descriptor stands for. -/
inductive Endpoint
  /-- A control socket for link and IPv4 requests. -/
  | inet
  /-- A control socket for IPv6 requests. -/
  | inet6
  /-- A raw socket bound to a link. -/
  | packet
  /-- A queue of a created link. -/
  | tun
  /-- The near end of a datagram pair that a link inside the process made. -/
  | pair (link : Nat)
  /-- A queue of such a link that fails. -/
  | broken (link : Nat)
deriving DecidableEq, Inhabited

structure Descriptor where
  endpoint : Endpoint
  number : Nat
deriving DecidableEq, Inhabited

/-- The data path of an open link. -/
structure Queues where
  rx : Descriptor
  tx : Descriptor
  origin : Origin
deriving DecidableEq, Inhabited

/-- A change that an interface asks of its link. -/
inductive Request
  | setMac (mac : Mac)
  | setMtu (mtu : UInt32)
  | setIpv4 (addr : Ipv4)
  | setNetmask (mask : Ipv4)
  | setBroadcast (addr : Ipv4)
  /-- Removes the IPv4 address together with its netmask and broadcast. -/
  | clearIpv4
  | addIpv6 (addr : Ipv6) (prefixLength : UInt8)
  | delIpv6 (addr : Ipv6) (prefixLength : UInt8)
  | setAdmin (up : Bool)
deriving DecidableEq

/-- How a request is called that takes back an earlier one. -/
def Request.undoLabel : Request → String
  | .setMac mac => s!"Mac({mac.toText})"
  | .setMtu mtu => s!"Mtu({mtu})"
  | .setIpv4 _ | .setNetmask _ | .setBroadcast _ | .clearIpv4 => "Ipv4"
  | .addIpv6 addr _ | .delIpv6 addr _ => s!"Ipv6({addr.toText})"
  | .setAdmin _ => "AdminUp"

end VirtualLink
