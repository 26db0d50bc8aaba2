import VirtualLink.System

namespace VirtualLink

def Endpoint.label : Endpoint → String
  | .inet => "inet"
  | .inet6 => "inet6"
  | .packet => "packet"
  | .tun => "tun"
  | .pair _ => "pair"
  | .broken _ => "broken"

namespace LinkCall

def name : LinkCall → String
  | .attachQueue _ => "TUNSETIFF"
  | .getIndex => "SIOCGIFINDEX"
  | .getMtu => "SIOCGIFMTU"
  | .getMac => "SIOCGIFHWADDR"
  | .getFlags => "SIOCGIFFLAGS"
  | .setMtu _ => "SIOCSIFMTU"
  | .setMac _ => "SIOCSIFHWADDR"
  | .setFlags _ => "SIOCSIFFLAGS"
  | .setAddress _ => "SIOCSIFADDR"
  | .setNetmask _ => "SIOCSIFNETMASK"
  | .setBroadcast _ => "SIOCSIFBRDADDR"

/-- Flags with four hex digits. -/
def flagText (flags : UInt16) : String :=
  "0x" ++ String.ofList (Hex.ofByte (flags >>> 8).toUInt8 ++ Hex.ofByte flags.toUInt8)

def quadArgument (addr : Ipv4) : String :=
  s!" family 2 port 0 {addr.toText}"

/-- What a call hands over besides the name of the link. -/
def argument : LinkCall → String
  | .attachQueue flags | .setFlags flags => " " ++ flagText flags
  | .setMtu mtu => s!" {mtu.toInt32}"
  | .setMac mac => s!" family 1 {mac.toText}"
  | .setAddress addr | .setNetmask addr | .setBroadcast addr => quadArgument addr
  | .getIndex | .getMtu | .getMac | .getFlags => ""

end LinkCall

/-- The text of bytes that are UTF-8 but for a character cut off at their end. -/
def shownName (bytes : Bytes) : String :=
  match String.fromUTF8? ⟨bytes.toArray⟩ with
  | some text => text
  | none =>
    let cut := [1, 2, 3].findSome? fun n => String.fromUTF8? ⟨(bytes.take (bytes.length - n)).toArray⟩
    cut.getD "" ++ "\uFFFD"

namespace Syscall

def protocol : Endpoint → String
  | .packet => "raw nonblock cloexec protocol 3"
  | _ => "dgram cloexec protocol 0"

def ipv6Argument (index : Nat) (addr : Ipv6) (prefixLength : UInt8) : String :=
  s!"index {index} {addr.toText}/{prefixLength}"

/-- The name by which a call is told to fail. -/
def name : Syscall → String
  | .socket endpoint => s!"socket_{endpoint.label}"
  | .bind .. => "bind"
  | .openTun => "open_tun"
  | .link _ _ call => call.name
  | .addIpv6 .. => "SIOCSIFADDR"
  | .delIpv6 .. => "SIOCDIFADDR"
  | .stat _ => "stat"
  | .openFile _ => "open_sysfs"
  | .read .. => "read"
  | .write .. => "write"
  | .close descriptor => s!"close_{descriptor.endpoint.label}"

/-- The call as a line of a record. -/
def line : Syscall → String
  | .socket endpoint => s!"socket {endpoint.label} {protocol endpoint}"
  | .bind descriptor index => s!"bind {descriptor.endpoint.label} family 17 protocol 3 index {index}"
  | .openTun => "open /dev/net/tun rdwr nonblock cloexec"
  | .link _ field call => s!"ioctl {call.name} {shownName (fieldName field)}" ++ call.argument
  | .addIpv6 _ index addr prefixLength => "ioctl6 SIOCSIFADDR " ++ ipv6Argument index addr prefixLength
  | .delIpv6 _ index addr prefixLength => "ioctl6 SIOCDIFADDR " ++ ipv6Argument index addr prefixLength
  | .stat path => s!"stat {path}"
  | .openFile path => s!"open {path}"
  | .read descriptor limit => s!"read {descriptor.endpoint.label} {limit}"
  | .write descriptor frame => s!"write {descriptor.endpoint.label} {frame.length}"
  | .close descriptor => s!"close {descriptor.endpoint.label}"

end Syscall

/-- A system whose calls are recorded, and one of whose calls can be told to fail. -/
structure Observed (κ : Type) where
  inner : κ
  /-- The name of the call that fails when it comes next, and how it fails. -/
  armed : Option (String × Errno) := none
  /-- The calls so far, oldest first. -/
  record : List String := []

namespace Observed

variable {κ : Type}

/-- Passes the call on, unless it was to fail. A close that fails has closed nevertheless. -/
def perform (system : System κ) (call : Syscall) : Call Errno (Observed κ) call.Answer := do
  let onInner : Call Errno (Observed κ) call.Answer :=
    (system call).zoom Observed.inner fun inner observed => { observed with inner }
  match (← Call.get).armed with
  | some (name, errno) =>
    if name = call.name then
      Call.modify fun observed => { observed with armed := none }
      match call with
      | .close descriptor =>
        discard (((system (.close descriptor)).zoom Observed.inner fun inner observed =>
          { observed with inner } : Call Errno (Observed κ) Unit).attempt)
      | _ => pure ()
      Call.fail errno
    else onInner
  | none => onInner

def note (call : Syscall) (result : Except Errno α) (observed : Observed κ) : Observed κ :=
  let outcome :=
    match result with
    | .ok _ => ""
    | .error errno => s!" = -{errno.number}"
  { observed with record := observed.record ++ [call.line ++ outcome] }

/-- The same system under observation. -/
def system (system : System κ) : System (Observed κ) := fun call => do
  let result ← (perform system call).attempt
  Call.modify (note call result)
  Call.ofExcept result

end Observed

end VirtualLink
