import VirtualLink.Backend
import VirtualLink.Counters

namespace VirtualLink

/-- The operations that a memory link logs and can be told to refuse. -/
inductive Op
  | acquire | release | setMac | setMtu | setIpv4 | setNetmask | setBroadcast | clearIpv4 | addIpv6 | delIpv6
  | setAdminUp | setAdminDown | readStat
deriving DecidableEq, Inhabited

namespace Op

def label : Op → String
  | .acquire => "Open"
  | .release => "Release"
  | .setMac => "SetMac"
  | .setMtu => "SetMtu"
  | .setIpv4 => "SetIpv4"
  | .setNetmask => "SetNetmask"
  | .setBroadcast => "SetBroadcast"
  | .clearIpv4 => "ClearIpv4"
  | .addIpv6 => "AddIpv6"
  | .delIpv6 => "DelIpv6"
  | .setAdminUp => "SetAdminUp"
  | .setAdminDown => "SetAdminDown"
  | .readStat => "ReadStat"

def all : List Op :=
  [.acquire, .release, .setMac, .setMtu, .setIpv4, .setNetmask, .setBroadcast, .clearIpv4, .addIpv6, .delIpv6,
    .setAdminUp, .setAdminDown, .readStat]

def ofLabel? (label : String) : Option Op :=
  all.find? fun op => op.label == label

end Op

def Request.op : Request → Op
  | .setMac _ => .setMac
  | .setMtu _ => .setMtu
  | .setIpv4 _ => .setIpv4
  | .setNetmask _ => .setNetmask
  | .setBroadcast _ => .setBroadcast
  | .clearIpv4 => .clearIpv4
  | .addIpv6 .. => .addIpv6
  | .delIpv6 .. => .delIpv6
  | .setAdmin true => .setAdminUp
  | .setAdmin false => .setAdminDown

/-- The address of a link that nobody gave another one. -/
def initialMac : Mac := ⟨#v[0x02, 0, 0, 0, 0, 0x01]⟩

/-- What can be seen of a memory link. -/
structure LinkState where
  exists? : Bool := false
  kind : Option Kind := none
  adminUp : Bool := false
  mac : Mac := initialMac
  mtu : UInt32 := 1500
  ipv4 : Option Ipv4 := none
  netmask : Option Ipv4 := none
  broadcast : Option Ipv4 := none
  ipv6 : List (Ipv6 × UInt8) := []
  opens : Nat := 0
  /-- The changes that succeeded, oldest first. -/
  log : List Op := []
deriving DecidableEq, Inhabited

/-- The effect of a granted request. -/
def LinkState.apply (state : LinkState) : Request → LinkState
  | .setMac mac => { state with mac }
  | .setMtu mtu => { state with mtu }
  | .setIpv4 addr => { state with ipv4 := some addr }
  | .setNetmask mask => { state with netmask := some mask }
  | .setBroadcast addr => { state with broadcast := some addr }
  | .clearIpv4 => { state with ipv4 := none, netmask := none, broadcast := none }
  | .addIpv6 addr prefixLength => { state with ipv6 := state.ipv6 ++ [(addr, prefixLength)] }
  | .delIpv6 addr prefixLength => { state with ipv6 := state.ipv6.filter (· ≠ (addr, prefixLength)) }
  | .setAdmin up => { state with adminUp := up }

/-- A datagram pair between an interface and a peer, with the frames on their way in both directions. -/
structure Pair where
  number : Nat
  /-- Frames from the peer, oldest first. -/
  inbox : List Bytes := []
  /-- Frames for the peer, oldest first. -/
  outbox : List Bytes := []
  nearOpen : Bool := true
  /-- A write at the near end has found the far end closed. -/
  nearCut : Bool := false
  /-- A write at the far end has found the near end closed. -/
  farCut : Bool := false
deriving DecidableEq, Inhabited

/-- A link inside the process. The interface holds the near end of a datagram pair, and a peer, in the place of
the kernel, the far end. -/
structure MemoryLink where
  /-- Tells its descriptors from those of other links. -/
  id : Nat := 0
  state : LinkState := {}
  counters : PerStat UInt64 := Vector.replicate 23 0
  /-- The operation that fails at its next call. -/
  fault : Option Op := none
  /-- The link outlives its queues, and opening attaches to it. -/
  attached : Bool := false
  /-- The pair whose far end the peer holds. -/
  peer : Option Nat := none
  pairs : List Pair := []
  nextPair : Nat := 0
deriving DecidableEq, Inhabited

namespace MemoryLink

/-- A link that is there already. Its settings and counters persist from one opening to the next. -/
def existing (mtu : UInt32) (mac : Mac) : MemoryLink :=
  { state := { exists? := true, mtu, mac }, attached := true }

def arm (op : Op) (link : MemoryLink) : MemoryLink :=
  { link with fault := some op }

/-- Fails, once, if this operation was to fail. -/
def inject (op : Op) (name : String) : Call Error MemoryLink Unit := do
  if (← Call.get).fault = some op then
    Call.modify fun link => { link with fault := none }
    Call.fail (.os "complete injected operation" name (.other s!"{op.label} failed"))

def requireLink (name : String) : Call Error MemoryLink Unit := do
  if ¬ (← Call.get).state.exists? then
    Call.fail (.os "reach link" name (.errno .noDevice))

def record (op : Op) (link : MemoryLink) : MemoryLink :=
  { link with state := { link.state with log := link.state.log ++ [op] } }

/-- What opening makes of a link: one that is attached keeps its settings, any other starts over. -/
def reopened (kind : Kind) (link : MemoryLink) : MemoryLink :=
  if link.attached then
    { link with state := { link.state with kind := some kind, opens := link.state.opens + 1 } }
  else
    { link with
      state := { exists? := true, kind := some kind, opens := link.state.opens + 1, log := link.state.log }
      counters := Vector.replicate 23 0 }

/-- Makes a new pair, whose far end replaces the one that the peer had. -/
def connect (link : MemoryLink) : MemoryLink :=
  { link with
    peer := some link.nextPair
    pairs := { number := link.nextPair } :: link.pairs
    nextPair := link.nextPair + 1 }

def acquire (name : String) (kind : Kind) : Call Error MemoryLink Queues := do
  inject .acquire name
  let link ← Call.get
  let origin := if link.attached then Origin.attached else Origin.created
  let nearEnd : Descriptor := ⟨.pair link.id, link.nextPair⟩
  Call.modify fun link => ((link.reopened kind).record .acquire).connect
  Call.log (.memoryOpened kind name origin)
  return ⟨nearEnd, nearEnd, origin⟩

def pair? (link : MemoryLink) (number : Nat) : Option Pair :=
  link.pairs.find? (·.number = number)

/-- The pair whose near end a descriptor stands for, while that end is open. -/
def openPair? (link : MemoryLink) (descriptor : Descriptor) : Option Pair :=
  (link.pair? descriptor.number).filter Pair.nearOpen

def updatePair (number : Nat) (f : Pair → Pair) (link : MemoryLink) : MemoryLink :=
  { link with pairs := link.pairs.map fun pair => if pair.number = number then f pair else pair }

/-- Forgets the pairs of which both ends are closed. -/
def prune (link : MemoryLink) : MemoryLink :=
  { link with pairs := link.pairs.filter fun pair => pair.nearOpen || link.peer = some pair.number }

/-- Closes the near end of a pair of this link, and with it what was on its way to it. -/
def close (descriptor : Descriptor) (link : MemoryLink) : MemoryLink :=
  if descriptor.endpoint = .pair link.id then
    (link.updatePair descriptor.number fun pair => { pair with nearOpen := false, inbox := [] }).prune
  else link

/-- The peer loses its end, and a link that was created is gone. -/
def withdrawn (link : MemoryLink) : MemoryLink :=
  prune
    { link with
      peer := none
      state :=
        if link.attached then link.state else { link.state with exists? := false, adminUp := false } }

/-- The first half of a release, up to the closing of the queues. It is done even if the call fails. -/
def withdraw (name : String) : Call Error MemoryLink Unit := do
  let injected ← (inject .release name).attempt
  Call.modify withdrawn
  Call.ofExcept injected

/-- The queues close even if the call fails. -/
def release (name : String) (queues : Queues) : Call Error MemoryLink Unit := do
  let withdrawal ← (withdraw name).attempt
  Call.modify fun link => (link.close queues.rx).close queues.tx
  Call.ofExcept withdrawal
  Call.modify (record .release)

def request (name : String) (change : Request) : Call Error MemoryLink Unit := do
  inject change.op name
  requireLink name
  Call.modify fun link => { link with state := link.state.apply change }
  Call.modify (record change.op)

def readStat (name stat : String) : Call Error MemoryLink UInt64 := do
  inject .readStat name
  requireLink name
  let index ← Call.ofExcept (Stat.ofName stat)
  return (← Call.get).counters.get index

/-- Takes the oldest frame; what does not fit is lost. -/
def read (descriptor : Descriptor) (limit : Nat) : Call Errno MemoryLink Bytes := do
  match (← Call.get).openPair? descriptor with
  | none => Call.fail .badDescriptor
  | some pair =>
    match pair.inbox with
    | [] => Call.fail .wouldBlock
    | frame :: rest =>
      Call.modify (updatePair descriptor.number fun pair => { pair with inbox := rest })
      return frame.take limit

/-- The first write after the far end was closed is refused, and what waited at the near end is lost; for the later
ones the pair is not connected. -/
def write (descriptor : Descriptor) (frame : Bytes) : Call Errno MemoryLink Nat := do
  let link ← Call.get
  match link.openPair? descriptor with
  | none => Call.fail .badDescriptor
  | some pair =>
    if link.peer = some pair.number then
      Call.modify (updatePair pair.number fun pair => { pair with outbox := pair.outbox ++ [frame] })
      return frame.length
    else if pair.nearCut then Call.fail .notConnected
    else
      Call.modify (updatePair pair.number fun pair => { pair with inbox := [], nearCut := true })
      Call.fail .connectionRefused

def backend : Backend MemoryLink where
  acquire := acquire
  release := release
  mac name := do
    requireLink name
    return (← Call.get).state.mac
  mtu name := do
    requireLink name
    return (← Call.get).state.mtu
  request := request
  readStat := readStat
  read := read
  write := write

/-- What keeps the peer from sending or receiving. -/
inductive PeerFault
  /-- The peer has no end of an open link. -/
  | unplugged
  | errno (errno : Errno)
deriving DecidableEq

namespace PeerFault

def label : PeerFault → String
  | .unplugged => "NotConnected"
  | .errno cause => if cause = .connectionRefused then "ConnectionRefused" else "NotConnected"

def message : PeerFault → String
  | .unplugged => "not connected"
  | .errno cause => cause.describe

end PeerFault

/-- The pair whose far end the peer holds. -/
def peerPair : Call PeerFault MemoryLink Pair := do
  let link ← Call.get
  match link.peer.bind link.pair? with
  | some pair => return pair
  | none => Call.fail .unplugged

def count (stat : Stat) (amount : Nat) (link : MemoryLink) : MemoryLink :=
  { link with counters := link.counters.put stat (addCapped (link.counters.get stat) (UInt64.ofNat amount)) }

/-- The peer sends a frame to the interface. The link counts it as transmitted. The first frame after the near end
was closed is refused, and what waited at the far end is lost; for the later ones the pair is not connected. -/
def peerSend (frame : Bytes) : Call PeerFault MemoryLink Unit := do
  let pair ← peerPair
  if pair.nearOpen then
    Call.modify fun link =>
      ((link.updatePair pair.number fun pair => { pair with inbox := pair.inbox ++ [frame] })
        |>.count .txPackets 1).count .txBytes frame.length
  else if pair.farCut then Call.fail (.errno .notConnected)
  else
    Call.modify (updatePair pair.number fun pair => { pair with outbox := [], farCut := true })
    Call.fail (.errno .connectionRefused)

/-- The peer takes the oldest frame of the interface. The link counts it as received. -/
def peerReceive : Call PeerFault MemoryLink (Option Bytes) := do
  let pair ← peerPair
  match pair.outbox with
  | [] => return none
  | frame :: rest =>
    Call.modify fun link =>
      ((link.updatePair pair.number fun pair => { pair with outbox := rest })
        |>.count .rxPackets 1).count .rxBytes frame.length
    return some frame

/-- The peer overrides a counter. -/
def setStat (stat : String) (value : UInt64) : Call Error MemoryLink Unit := do
  let index ← Call.ofExcept (Stat.ofName stat)
  Call.modify fun link => { link with counters := link.counters.put index value }

end MemoryLink

end VirtualLink
