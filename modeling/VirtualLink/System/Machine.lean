import VirtualLink.Counters
import VirtualLink.System

namespace VirtualLink

/-- The links that a simulated machine knows. -/
inductive NicKind
  | loopback
  | queued (kind : Kind)
deriving DecidableEq, Inhabited

/-- A network interface of a simulated machine. -/
structure Nic where
  name : Bytes
  index : Nat
  kind : NicKind
  mtu : UInt32
  mac : Mac
  up : Bool := false
  hasIpv4 : Bool := false
  ipv6 : List Ipv6 := []
  rxPackets : Nat := 0
  rxBytes : Nat := 0
  txPackets : Nat := 0
  txBytes : Nat := 0
  /-- Frames written to a queue, oldest first, as far as nobody took them. -/
  written : List Bytes := []
deriving DecidableEq, Inhabited

/-- A packet socket. -/
structure PacketSocket where
  number : Nat
  /-- The index of the link it is bound to. -/
  index : Option Nat := none
  /-- The link went down, and no call has reported that yet. -/
  alarmed : Bool := false
  inbox : List Bytes := []
deriving DecidableEq, Inhabited

/-- A queue of a created link. -/
structure TunQueue where
  number : Nat
  index : Option Nat := none
  inbox : List Bytes := []
deriving DecidableEq, Inhabited

/-- A simulated machine with a loopback and the links that were created on it. -/
structure Machine where
  nics : List Nic
  sockets : List PacketSocket := []
  /-- Oldest first: the first queue of a link is the one that gets its frames. -/
  queues : List TunQueue := []
  nextNumber : Nat := 3
  nextIndex : Nat := 2
deriving DecidableEq

namespace Nic

/-- Broadcast and multicast for a tap; point-to-point, no ARP and multicast for a tun; loopback. -/
def baseFlags : NicKind → UInt16
  | .loopback => 0x0008
  | .queued .tap => 0x1002
  | .queued .tun => 0x1090

/-- While the link is up it is also running. -/
def flags (nic : Nic) : UInt16 :=
  if nic.up then baseFlags nic.kind ||| 0x0041 else baseFlags nic.kind

def acceptsMtu (kind : NicKind) (mtu : UInt32) : Bool :=
  match kind with
  | .loopback => mtu ≤ 2147483647
  | .queued .tap => 68 ≤ mtu && mtu ≤ 65521
  | .queued .tun => 68 ≤ mtu && mtu ≤ 65535

/-- IPv6 needs an MTU of at least this. -/
def minIpv6Mtu : UInt32 := 1280

/-- The number of the kind of link, as the machine's files give it. -/
def typeNumber : NicKind → Nat
  | .loopback => 772
  | .queued .tap => 1
  | .queued .tun => 65534

/-- A link that goes down loses its IPv6 addresses; one that is down already keeps what it was given since. -/
def setUp (up : Bool) (nic : Nic) : Nic :=
  { nic with up, ipv6 := if nic.up && !up then [] else nic.ipv6 }

def setMtu (mtu : UInt32) (nic : Nic) : Nic :=
  { nic with mtu, ipv6 := if mtu < minIpv6Mtu then [] else nic.ipv6 }

def receive (frame : Bytes) (nic : Nic) : Nic :=
  { nic with
    rxPackets := nic.rxPackets + 1
    rxBytes := nic.rxBytes + frame.length
    written := nic.written ++ [frame] }

def transmit (frame : Bytes) (nic : Nic) : Nic :=
  { nic with txPackets := nic.txPackets + 1, txBytes := nic.txBytes + frame.length }

/-- A frame that a loopback sends comes back without its Ethernet header. -/
def loop (frame : Bytes) (nic : Nic) : Nic :=
  let length := frame.length - 14
  { nic with
    rxPackets := nic.rxPackets + 1
    rxBytes := nic.rxBytes + length
    txPackets := nic.txPackets + 1
    txBytes := nic.txBytes + length }

/-- The value of a counter; most of them never move. -/
def counter (nic : Nic) (stat : Stat) : Nat :=
  if stat = .rxPackets then nic.rxPackets
  else if stat = .rxBytes then nic.rxBytes
  else if stat = .txPackets then nic.txPackets
  else if stat = .txBytes then nic.txBytes
  else 0

end Nic

namespace Machine

open Call

variable {ε : Type}

/-- A machine with nothing but a loopback, which is down. -/
def fresh : Machine :=
  { nics := [{ name := utf8 "lo", index := 1, kind := .loopback, mtu := 65536, mac := .zero }] }

def nic? (machine : Machine) (name : Bytes) : Option Nic :=
  machine.nics.find? (·.name = name)

def nicAt? (machine : Machine) (index : Nat) : Option Nic :=
  machine.nics.find? (·.index = index)

def updateNic (index : Nat) (f : Nic → Nic) (machine : Machine) : Machine :=
  { machine with nics := machine.nics.map fun nic => if nic.index = index then f nic else nic }

def updateSocket (number : Nat) (f : PacketSocket → PacketSocket) (machine : Machine) : Machine :=
  { machine with
    sockets := machine.sockets.map fun socket => if socket.number = number then f socket else socket }

def updateQueue (number : Nat) (f : TunQueue → TunQueue) (machine : Machine) : Machine :=
  { machine with queues := machine.queues.map fun queue => if queue.number = number then f queue else queue }

/-- Tells the packet sockets of a link that it went down. -/
def alarm (index : Nat) (machine : Machine) : Machine :=
  { machine with
    sockets := machine.sockets.map fun socket =>
      if socket.index = some index then { socket with alarmed := true } else socket }

def requireNic (name : Bytes) : Call Errno Machine Nic := do
  match (← Call.get).nic? name with
  | some nic => return nic
  | none => fail .noDevice

def requireNicAt (index : Nat) : Call Errno Machine Nic := do
  match (← Call.get).nicAt? index with
  | some nic => return nic
  | none => fail .noDevice

/-- Fails with a number unless a condition holds. -/
def require (condition : Bool) (errno : Errno) : Call Errno Machine Unit :=
  if condition then pure () else fail errno

/-- A number for a new descriptor. -/
def number : Call Errno Machine Nat := do
  let number := (← Call.get).nextNumber
  Call.modify fun machine => { machine with nextNumber := number + 1 }
  return number

def openSocket (endpoint : Endpoint) : Call Errno Machine Descriptor := do
  let number ← number
  if endpoint = .packet then
    Call.modify fun machine => { machine with sockets := machine.sockets ++ [{ number }] }
  return ⟨endpoint, number⟩

def openTun : Call Errno Machine Descriptor := do
  let number ← number
  Call.modify fun machine => { machine with queues := machine.queues ++ [{ number }] }
  return ⟨.tun, number⟩

/-- A socket that is bound to a link which is down hears of it. -/
def bindSocket (socket : Descriptor) (index : Nat) : Call Errno Machine Unit := do
  let nic ← requireNicAt index
  Call.modify (updateSocket socket.number fun socket => { socket with index := some index, alarmed := !nic.up })

/-- A name that a link can be created with: not empty, no dots alone, and no byte that is a slash, a colon or white
space, which in the system's table of bytes includes the no-break space. -/
def isLinkName (name : Bytes) : Bool :=
  name ≠ [] && name ≠ utf8 "." && name ≠ utf8 ".."
    && name.all fun byte => byte ≠ 0x2F && byte ≠ 0x3A && byte ≠ 0x20 && byte ≠ 0xA0 && !(0x09 ≤ byte && byte ≤ 0x0D)

/-- The kind of link that the flags of a queue ask for. -/
def flagsKind (flags : UInt16) : Kind :=
  if flags &&& 2 ≠ 0 then .tap else .tun

/-- Creates the link of the name, or adds a queue to it if it was created with the same kind. -/
def attachQueue (queue : Descriptor) (name : Bytes) (flags : UInt16) : Call Errno Machine Unit := do
  let kind := flagsKind flags
  let machine ← Call.get
  match machine.nic? name with
  | some nic =>
    require (nic.kind = .queued kind) .invalid
    Call.modify (updateQueue queue.number fun queue => { queue with index := some nic.index })
  | none =>
    require (isLinkName name) .invalid
    let index := machine.nextIndex
    let mac := if kind.isTap then ⟨#v[0x02, 0, 0, 0, 0, UInt8.ofNat index]⟩ else Mac.zero
    Call.modify fun machine =>
      { machine with
        nics := machine.nics ++ [{ name, index, kind := .queued kind, mtu := 1500, mac }]
        nextIndex := index + 1 }
    Call.modify (updateQueue queue.number fun queue => { queue with index := some index })

def setMtu (name : Bytes) (mtu : UInt32) : Call Errno Machine Unit := do
  let nic ← requireNic name
  require (Nic.acceptsMtu nic.kind mtu) .invalid
  Call.modify (updateNic nic.index (Nic.setMtu mtu))

def setMac (name : Bytes) (mac : Mac) : Call Errno Machine Unit := do
  let nic ← requireNic name
  require (nic.kind ≠ .queued .tun) .notSupported
  require (nic.kind ≠ .loopback) .invalid
  require (mac.isUnicast && !mac.isZero) .addressNotAvailable
  Call.modify (updateNic nic.index fun nic => { nic with mac })

/-- Only the lowest flag can be changed. -/
def setFlags (name : Bytes) (flags : UInt16) : Call Errno Machine Unit := do
  let nic ← requireNic name
  let up := flags &&& 1 ≠ 0
  Call.modify (updateNic nic.index (Nic.setUp up))
  if nic.up && !up then Call.modify (alarm nic.index)

/-- The unspecified address removes the one that the link has. -/
def setAddress (name : Bytes) (addr : Ipv4) : Call Errno Machine Unit := do
  let nic ← requireNic name
  Call.modify (updateNic nic.index fun nic => { nic with hasIpv4 := addr ≠ .unspecified })

def requireIpv4 (name : Bytes) : Call Errno Machine Unit := do
  let nic ← requireNic name
  require nic.hasIpv4 .addressNotAvailable

def linkCall (descriptor : Descriptor) (name : Bytes) : (call : LinkCall) → Call Errno Machine call.Answer
  | .attachQueue flags => attachQueue descriptor name flags
  | .getIndex => do return (← requireNic name).index
  | .getMtu => do return (← requireNic name).mtu
  | .getMac => do return (← requireNic name).mac
  | .getFlags => do return (← requireNic name).flags
  | .setMtu mtu => setMtu name mtu
  | .setMac mac => setMac name mac
  | .setFlags flags => setFlags name flags
  | .setAddress addr => setAddress name addr
  | .setNetmask _ => requireIpv4 name
  | .setBroadcast _ => requireIpv4 name

/-- An address is there once, whatever its prefix. -/
def addIpv6 (index : Nat) (addr : Ipv6) (prefixLength : UInt8) : Call Errno Machine Unit := do
  let nic ← requireNicAt index
  require (nic.mtu ≥ Nic.minIpv6Mtu && prefixLength ≤ 128) .invalid
  require (addr ∉ nic.ipv6) .alreadyExists
  Call.modify (updateNic index fun nic => { nic with ipv6 := nic.ipv6 ++ [addr] })

def delIpv6 (index : Nat) (addr : Ipv6) : Call Errno Machine Unit := do
  let nic ← requireNicAt index
  require (nic.mtu ≥ Nic.minIpv6Mtu) .noSuchAddress
  require (addr ∈ nic.ipv6) .addressNotAvailable
  Call.modify (updateNic index fun nic => { nic with ipv6 := nic.ipv6.filter (· ≠ addr) })

/-- Where a path leads. -/
inductive Place
  | directory (components : List String)
  | file (bytes : Bytes)

def interfacesDirectory : List String := ["sys", "class", "net"]

def decimalLine (n : Nat) : Bytes :=
  utf8 (toString n ++ "\n")

/-- A file in the directory of an interface. -/
def attribute? (nic : Nic) : String → Option Bytes
  | "mtu" => some (decimalLine nic.mtu.toNat)
  | "type" => some (decimalLine (Nic.typeNumber nic.kind))
  | "ifindex" => some (decimalLine nic.index)
  | "ifalias" => some []
  | "operstate" => some (utf8 "unknown\n")
  | "flags" => some (utf8 "0x" ++ (Nat.toDigits 16 nic.flags.toNat).map Char.toUInt8 ++ utf8 "\n")
  | "address" => some (utf8 (nic.mac.toText ++ "\n"))
  | _ => none

/-- One step down from a directory. -/
def entry? (machine : Machine) (directory : List String) (name : String) : Option Place :=
  let inside (interface : String) : Option Nic := machine.nic? (utf8 interface)
  match directory with
  | [] | ["sys"] | ["sys", "class"] =>
    let below := directory ++ [name]
    if below.isPrefixOf interfacesDirectory then some (.directory below) else none
  | ["sys", "class", "net"] => (inside name).map fun _ => .directory (directory ++ [name])
  | ["sys", "class", "net", interface] =>
    if name = "statistics" then some (.directory (directory ++ [name]))
    else do return .file (← attribute? (← inside interface) name)
  | ["sys", "class", "net", interface, "statistics"] => do
    let nic ← inside interface
    let stat ← Stat.ofName? name
    return .file (decimalLine (nic.counter stat))
  | _ => none

/-- Follows the components of a path from the place reached so far. -/
def follow (machine : Machine) : Place → List String → Option Place
  | place, [] => some place
  | .file _, _ :: _ => none
  | .directory directory, name :: rest =>
    if name = "" ∨ name = "." then machine.follow (.directory directory) rest
    else if name = ".." then machine.follow (.directory directory.dropLast) rest
    else do machine.follow (← machine.entry? directory name) rest

def place? (machine : Machine) (path : String) : Option Place :=
  machine.follow (.directory []) ((fields '/' path.toList).map String.ofList)

def statFile (path : String) : Call Errno Machine Unit := do
  match (← Call.get).place? path with
  | some _ => pure ()
  | none => fail .notFound

def openFile (path : String) : Call Errno Machine Content := do
  match (← Call.get).place? path with
  | some (.file bytes) => return .text bytes
  | some (.directory _) => return .directory
  | none => fail .notFound

def socket? (machine : Machine) (number : Nat) : Option PacketSocket :=
  machine.sockets.find? (·.number = number)

def queue? (machine : Machine) (number : Nat) : Option TunQueue :=
  machine.queues.find? (·.number = number)

/-- Reports, once, that the link went down. -/
def reportAlarm (socket : PacketSocket) : Call Errno Machine Unit := do
  if socket.alarmed then
    Call.modify (updateSocket socket.number fun socket => { socket with alarmed := false })
    fail .networkDown

def readSocket (number limit : Nat) : Call Errno Machine Bytes := do
  match (← Call.get).socket? number with
  | none => fail .badDescriptor
  | some socket =>
    reportAlarm socket
    match socket.inbox with
    | [] => fail .wouldBlock
    | frame :: rest =>
      Call.modify (updateSocket number fun socket => { socket with inbox := rest })
      return frame.take limit

/-- The link counts a frame as transmitted when it is read from a queue. -/
def readQueue (number limit : Nat) : Call Errno Machine Bytes := do
  match (← Call.get).queue? number with
  | none => fail .badDescriptor
  | some queue =>
    match queue.inbox with
    | [] => fail .wouldBlock
    | frame :: rest =>
      Call.modify (updateQueue number fun queue => { queue with inbox := rest })
      queue.index.forM fun index => Call.modify (updateNic index (Nic.transmit frame))
      return frame.take limit

def readFrame (descriptor : Descriptor) (limit : Nat) : Call Errno Machine Bytes :=
  match descriptor.endpoint with
  | .packet => readSocket descriptor.number limit
  | .tun => readQueue descriptor.number limit
  | _ => fail .invalid

/-- Every other socket of a link sees what one of them sends. On a loopback it also sees it come back, and so does
the sender. -/
def echo (sender : Nat) (nic : Nic) (frame : Bytes) (machine : Machine) : Machine :=
  let copies (number : Nat) : Nat :=
    (if number = sender then 0 else 1) + (if nic.kind = .loopback then 1 else 0)
  { machine with
    sockets := machine.sockets.map fun socket =>
      if socket.index = some nic.index then
        { socket with inbox := socket.inbox ++ List.replicate (copies socket.number) frame }
      else socket }

/-- Hands a frame to the first queue of a link. -/
def deliver (index : Nat) (frame : Bytes) (machine : Machine) : Machine :=
  match machine.queues.find? (·.index = some index) with
  | some queue => machine.updateQueue queue.number fun queue => { queue with inbox := queue.inbox ++ [frame] }
  | none => machine

def writeSocket (number : Nat) (frame : Bytes) : Call Errno Machine Nat := do
  let machine ← Call.get
  match machine.socket? number with
  | none => fail .badDescriptor
  | some socket =>
    match socket.index.bind machine.nicAt? with
    | none => fail .noSuchAddress
    | some nic =>
      require nic.up .networkDown
      reportAlarm socket
      Call.modify (echo number nic frame)
      if nic.kind = .loopback then Call.modify (updateNic nic.index (Nic.loop frame))
      else Call.modify (deliver nic.index frame)
      return frame.length

/-- A tun takes IP packets only, by their version. -/
def isIpPacket (frame : Bytes) : Bool :=
  match frame with
  | [] => false
  | first :: _ => first >>> 4 == 4 || first >>> 4 == 6

def writeQueue (number : Nat) (frame : Bytes) : Call Errno Machine Nat := do
  let machine ← Call.get
  match (machine.queue? number).bind fun queue => queue.index.bind machine.nicAt? with
  | none => fail .badDescriptor
  | some nic =>
    require nic.up .ioError
    require (nic.kind ≠ .queued .tun || isIpPacket frame) .invalid
    Call.modify (updateNic nic.index (Nic.receive frame))
    return frame.length

def writeFrame (descriptor : Descriptor) (frame : Bytes) : Call Errno Machine Nat :=
  match descriptor.endpoint with
  | .packet => writeSocket descriptor.number frame
  | .tun => writeQueue descriptor.number frame
  | _ => fail .invalid

/-- A created link goes with the last of its queues. -/
def closeQueue (number : Nat) (machine : Machine) : Machine :=
  let index := (machine.queue? number).bind TunQueue.index
  let left := { machine with queues := machine.queues.filter (·.number ≠ number) }
  match index with
  | none => left
  | some index =>
    if left.queues.any (·.index = some index) then left
    else alarm index { left with nics := left.nics.filter (·.index ≠ index) }

def closeDescriptor (descriptor : Descriptor) (machine : Machine) : Machine :=
  match descriptor.endpoint with
  | .packet => { machine with sockets := machine.sockets.filter (·.number ≠ descriptor.number) }
  | .tun => machine.closeQueue descriptor.number
  | _ => machine

/-- The calls as the machine answers them. -/
def system : System Machine
  | .socket endpoint => openSocket endpoint
  | .bind socket index => bindSocket socket index
  | .openTun => openTun
  | .link descriptor name call => linkCall descriptor (fieldName name) call
  | .addIpv6 _ index addr prefixLength => addIpv6 index addr prefixLength
  | .delIpv6 _ index addr _ => delIpv6 index addr
  | .stat path => statFile path
  | .openFile path => openFile path
  | .read descriptor limit => readFrame descriptor limit
  | .write descriptor frame => writeFrame descriptor frame
  | .close descriptor => Call.modify (closeDescriptor descriptor)

/-- The machine has a frame for a created link that is up, and says whether there is one. -/
def inject (name : String) (frame : Bytes) : Call ε Machine Bool := do
  match (← Call.get).nic? (utf8 name) with
  | some nic =>
    if nic.up && nic.kind ≠ .loopback then
      Call.modify (deliver nic.index frame)
      return true
    else return false
  | none => return false

/-- Takes the oldest frame that was written to a queue of the link. -/
def takeWritten (name : String) : Call ε Machine (Option Bytes) := do
  match (← Call.get).nic? (utf8 name) with
  | some nic =>
    match nic.written with
    | [] => return none
    | frame :: rest =>
      Call.modify (updateNic nic.index fun nic => { nic with written := rest })
      return some frame
  | none => return none

end Machine

end VirtualLink
