import VirtualLink.Error
import VirtualLink.Link

namespace VirtualLink

/-- How much an event matters, gravest first. -/
inductive Level
  | error | warn | info | debug | trace
deriving DecidableEq, Inhabited

namespace Level

def rank : Level → Nat
  | .error => 1
  | .warn => 2
  | .info => 3
  | .debug => 4
  | .trace => 5

def toText : Level → String
  | .error => "ERROR"
  | .warn => "WARN"
  | .info => "INFO"
  | .debug => "DEBUG"
  | .trace => "TRACE"

def ofRank? : Nat → Option Level
  | 1 => some .error
  | 2 => some .warn
  | 3 => some .info
  | 4 => some .debug
  | 5 => some .trace
  | _ => none

/-- Reads the name of a level, in any case. -/
def ofText? (text : String) : Option Level :=
  match text.toLower with
  | "error" => some .error
  | "warn" => some .warn
  | "info" => some .info
  | "debug" => some .debug
  | "trace" => some .trace
  | _ => none

end Level

/-- What happened, as the log tells it. -/
inductive Event
  | rootCreated (capacity : Nat)
  | rootDestroyed
  | rootDropped (live : Nat)
  | poolReleased (live : Nat)
  | interfaceCreated (kind : Kind) (name : String) (id : UInt32)
  | kindIgnored (name : String) (kind configured : Kind)
  | interfaceDestroyed (name : String)
  | releaseFailed (name : String) (error : Error)
  | pendingMac (name : String) (mac : Mac)
  | pendingIpv4 (name text : String)
  | pendingNetmask (name text : String)
  | pendingBroadcast (name text : String)
  | pendingIpv6 (name : String) (count : Nat)
  | pendingMtu (name : String) (mtu : UInt32)
  | statCleared (name stat : String)
  | dropFailed (name : String) (error : Error)
  | bringingUp (kind : Kind) (name : String)
  | bringUpFailed (name : String) (error : Error)
  | isUp (name : String)
  | opened (origin : Origin) (name : String)
  | adoptedMtu (mtu : UInt32) (name : String)
  | macSet (name : String) (mac : Mac)
  | mtuSet (name : String) (mtu : UInt32)
  | ipv4Set (name : String) (addr : Ipv4)
  | ipv6Added (addr : Ipv6) (prefixLength : UInt8) (name : String)
  | undoFailed (step name : String) (error : Error)
  | rolledBack (name : String)
  | bringingDown (name : String)
  | snapshotFailed (name : String) (error : Error)
  | teardownFailed (name : String) (error : Error)
  | mtuRestored (mtu : UInt32) (name : String)
  | isDown (name : String)
  | sent (length : Nat) (name : String)
  | received (length : Nat) (name : String)
  | memoryOpened (kind : Kind) (name : String) (origin : Origin)
  | attaching (name : String)
  | hasIndex (name : String) (index : Int)
  | creating (kind : Kind) (name : String)
  | removed (name : String)
  | diagnosticWarning (text : String)
  | diagnosticError (text : String)

namespace Event

def level : Event → Level
  | .diagnosticError _ => .error
  | .rootDropped _ | .kindIgnored .. | .releaseFailed .. | .dropFailed .. | .bringUpFailed .. | .undoFailed ..
  | .teardownFailed .. | .diagnosticWarning _ => .warn
  | .rootCreated _ | .rootDestroyed | .interfaceCreated .. | .interfaceDestroyed _ | .bringingUp .. | .isUp _
  | .bringingDown _ | .isDown _ | .attaching _ | .creating .. => .info
  | .sent .. | .received .. => .trace
  | _ => .debug

/-- The part of the program that speaks; filters select by it. -/
def target : Event → String
  | .rootCreated _ | .rootDestroyed | .rootDropped _ | .poolReleased _ => "viface::arena"
  | .interfaceCreated .. | .kindIgnored .. | .interfaceDestroyed _ | .releaseFailed .. | .pendingMac ..
  | .pendingIpv4 .. | .pendingNetmask .. | .pendingBroadcast .. | .pendingIpv6 .. | .pendingMtu .. | .statCleared ..
  | .dropFailed .. => "viface::iface"
  | .sent .. | .received .. => "viface::iface::packet"
  | .memoryOpened .. => "viface::link::memory"
  | .attaching _ | .hasIndex .. | .creating .. | .removed _ => "viface::link::kernel"
  | .diagnosticWarning _ | .diagnosticError _ => "viface::config::validation"
  | _ => "viface::iface::lifecycle"

def message : Event → String
  | .rootCreated capacity => s!"Root pool created (interface capacity {capacity} bytes)"
  | .rootDestroyed => "Root pool destroyed"
  | .rootDropped live => s!"Root pool dropped with {live} live interface pool(s)"
  | .poolReleased live => s!"Interface pool released ({live} still live)"
  | .interfaceCreated kind name id => s!"Created {kind.toText} interface {name} (id {id})"
  | .kindIgnored name kind configured =>
    s!"Interface {name} is {kind.toText}, ignoring configured kind {configured.toText}"
  | .interfaceDestroyed name => s!"Destroyed interface {name}"
  | .releaseFailed name error => s!"Releasing pool of {name} failed: {error.message}"
  | .pendingMac name mac => s!"{name}: pending MAC {mac.toText}"
  | .pendingIpv4 name text => s!"{name}: pending IPv4 {text}"
  | .pendingNetmask name text => s!"{name}: pending netmask {text}"
  | .pendingBroadcast name text => s!"{name}: pending broadcast {text}"
  | .pendingIpv6 name count => s!"{name}: pending {count} IPv6 address(es)"
  | .pendingMtu name mtu => s!"{name}: pending MTU {mtu}"
  | .statCleared name stat => s!"{name}: cleared {stat}"
  | .dropFailed name error => s!"Failed to bring down {name} on drop: {error.message}"
  | .bringingUp kind name => s!"Bringing up {kind.toText} interface {name}..."
  | .bringUpFailed name error => s!"Failed to bring up {name}: {error.message}"
  | .isUp name => s!"Interface {name} is up"
  | .opened origin name => s!"Opened {origin.label} queues for {name}"
  | .adoptedMtu mtu name => s!"Adopting MTU {mtu} of {name}"
  | .macSet name mac => s!"Set MAC of {name} to {mac.toText}"
  | .mtuSet name mtu => s!"Set MTU of {name} to {mtu}"
  | .ipv4Set name addr => s!"Set IPv4 address of {name} to {addr.toText}"
  | .ipv6Added addr prefixLength name => s!"Added {addr.toText}/{prefixLength} to {name}"
  | .undoFailed step name error => s!"Rollback of {step} on {name} failed: {error.message}"
  | .rolledBack name => s!"Rolled back {name}"
  | .bringingDown name => s!"Bringing down interface {name}..."
  | .snapshotFailed name error => s!"Could not snapshot statistics of {name}: {error.message}"
  | .teardownFailed name error => s!"Teardown step on {name} failed: {error.message}"
  | .mtuRestored mtu name => s!"Restored MTU {mtu} of {name}"
  | .isDown name => s!"Interface {name} is down"
  | .sent length name => s!"Sent {length} bytes on {name}"
  | .received length name => s!"Received {length} bytes on {name}"
  | .memoryOpened kind name origin => s!"Opened in-memory {kind.toText} link {name} ({origin.label})"
  | .attaching name => s!"Attaching to existing interface {name}..."
  | .hasIndex name index => s!"Interface {name} has index {index}"
  | .creating kind name => s!"Creating {kind.toText} interface {name}..."
  | .removed name => s!"Removed interface {name}"
  | .diagnosticWarning text => text
  | .diagnosticError text => text

/-- One line of the log. -/
def line (event : Event) : String :=
  s!"{event.level.toText} {event.message}"

end Event

/-- The lines of the events that matter at least as much as `level`. -/
def linesUpTo (level : Level) (events : List Event) : List String :=
  (events.filter fun event => event.level.rank ≤ level.rank).map Event.line

end VirtualLink
