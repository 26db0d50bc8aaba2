import VirtualLink.Backend
import VirtualLink.System

namespace VirtualLink.Kernel

open Call

variable {ε κ : Type}

/-- The sockets on which control requests are made. -/
structure Control where
  inet : Descriptor
  inet6 : Descriptor
deriving DecidableEq, Inhabited

/-- Closes a descriptor that is no longer needed; nobody asks how that went. -/
def discardDescriptor (system : System κ) (descriptor : Descriptor) : Call ε κ Unit := do
  discard (attempt (system (.close descriptor)))

/-- Closes the descriptor if the call fails. -/
def orDiscard (system : System κ) (descriptor : Descriptor) (call : Call ε κ α) : Call ε κ α := do
  match ← attempt call with
  | .ok a => return a
  | .error error =>
    discardDescriptor system descriptor
    fail error

/-- Blames a refused call on the action that needed it. -/
def blame (action name : String) (call : Call Errno κ α) : Call Error κ α :=
  call.mapError fun errno => .os action name (.errno errno)

def openControl (system : System κ) : Call Error κ Control := do
  let inet : Descriptor ← mapError (fun errno => .io (.errno errno)) (system (.socket .inet))
  let inet6 : Descriptor ←
    orDiscard system inet (mapError (fun errno => .io (.errno errno)) (system (.socket .inet6)))
  return { inet, inet6 }

def closeControl (system : System κ) (control : Control) : Call ε κ Unit := do
  discardDescriptor system control.inet
  discardDescriptor system control.inet6

def linkIndex (system : System κ) (socket : Descriptor) (name : String) : Call Error κ Nat :=
  blame "resolve interface index" name (system (.link socket (nameField name) .getIndex))

/-- A raw packet socket bound to the link of a name, and the index of that link. -/
def bindPacketSocket (system : System κ) (name : String) : Call Error κ (Descriptor × Nat) := do
  let socket : Descriptor ← blame "open packet socket" name (system (.socket .packet))
  orDiscard system socket do
    let index ← linkIndex system socket name
    blame "bind packet socket" name (system (.bind socket index))
    return (socket, index)

def interfacesPath : String := "/sys/class/net"

/-- The path of `name` seen from a directory. An absolute name stands for itself, and an empty one leaves a
slash at the end. -/
def joinPath (directory name : String) : String :=
  if name.startsWith "/" then name
  else if directory.endsWith "/" then directory ++ name
  else directory ++ "/" ++ name

def linkPath (name : String) : String :=
  joinPath interfacesPath name

def statPath (name stat : String) : String :=
  joinPath (joinPath (linkPath name) "statistics") stat

/-- A path cannot hold a zero byte; the system is then not asked. -/
def hasZeroByte (path : String) : Bool :=
  path.toList.contains '\x00'

def linkExists (system : System κ) (name : String) : Call ε κ Bool := do
  if hasZeroByte (linkPath name) then return false
  else
    match ← attempt (system (.stat (linkPath name))) with
    | .ok _ => return true
    | .error _ => return false

/-- Layer, no packet information, many queues. -/
def queueFlags : Kind → UInt16
  | .tap => 0x1102
  | .tun => 0x1101

def openQueue (system : System κ) (name : String) (kind : Kind) : Call Error κ Descriptor := do
  let queue : Descriptor ← blame "open tun device" name (system .openTun)
  orDiscard system queue do
    blame "create link queue" name (system (.link queue (nameField name) (.attachQueue (queueFlags kind))))
    return queue

def acquire (system : System κ) (name : String) (kind : Kind) : Call Error κ Queues := do
  if ← linkExists system name then
    log (.attaching name)
    let (rx, index) ← bindPacketSocket system name
    let (tx, _) ← orDiscard system rx (bindPacketSocket system name)
    log (.hasIndex name index)
    return ⟨rx, tx, .attached⟩
  else
    log (.creating kind name)
    let rx ← openQueue system name kind
    let tx ← orDiscard system rx (openQueue system name kind)
    return ⟨rx, tx, .created⟩

/-- Closes both descriptors, and answers with the first failure. -/
def closeQueues (system : System κ) (queues : Queues) : Call Errno κ Unit := do
  let first ← attempt (system (.close queues.rx))
  let second ← attempt (system (.close queues.tx))
  discard (ofExcept first)
  discard (ofExcept second)

def release (system : System κ) (name : String) (queues : Queues) : Call Error κ Unit := do
  blame "close link queues" name (closeQueues system queues)
  if queues.origin = .created then log (.removed name)

/-- The flag that an administrator sets. -/
def upFlag : UInt16 := 0x0001

def setAdmin (system : System κ) (control : Control) (name : String) (up : Bool) : Call Error κ Unit := do
  let flags : UInt16 ← blame "read interface flags" name (system (.link control.inet (nameField name) .getFlags))
  let wanted := if up then flags ||| upFlag else flags &&& ~~~upFlag
  blame "set interface flags" name (system (.link control.inet (nameField name) (.setFlags wanted)))

def request (system : System κ) (control : Control) (name : String) : Request → Call Error κ Unit
  | .setMac mac => ask "set MAC address" (.setMac mac)
  | .setMtu mtu => ask "set MTU" (.setMtu mtu)
  | .setIpv4 addr => ask "set IPv4 address" (.setAddress addr)
  | .setNetmask mask => ask "set netmask" (.setNetmask mask)
  | .setBroadcast addr => ask "set broadcast address" (.setBroadcast addr)
  | .clearIpv4 => ask "remove IPv4 address" (.setAddress .unspecified)
  | .addIpv6 addr prefixLength => do
    let index ← linkIndex system control.inet name
    blame "add IPv6 address" name (system (.addIpv6 control.inet6 index addr prefixLength))
  | .delIpv6 addr prefixLength => do
    let index ← linkIndex system control.inet name
    blame "remove IPv6 address" name (system (.delIpv6 control.inet6 index addr prefixLength))
  | .setAdmin up => setAdmin system control name up
where
  ask (action : String) (call : LinkCall) : Call Error κ Unit :=
    blame action name do discard (system (.link control.inet (nameField name) call))

/-- Appends digits to the number read so far, up to the first that is none or that makes it too large. -/
def readDigits (sofar : Nat) : List Char → Except Cause UInt64
  | [] => .ok (UInt64.ofNat sofar)
  | c :: rest =>
    if ¬ c.isDigit then .error .invalidDigit
    else
      let n := 10 * sofar + (c.toNat - '0'.toNat)
      if n < UInt64.size then readDigits n rest else .error .integerOverflow

/-- Reads a decimal number with blanks around it; a plus in front is read too. -/
def readCounter (text : List Char) : Except Cause UInt64 :=
  let trimmed := trimBlanks text
  if trimmed = [] then .error .emptyInteger
  else
    let digits := if trimmed.head? = some '+' then trimmed.tail else trimmed
    if digits = [] then .error .invalidDigit else readDigits 0 digits

def contentCounter : Content → Except Cause UInt64
  | .directory => .error (.errno .isDirectory)
  | .text bytes =>
    match String.fromUTF8? ⟨bytes.toArray⟩ with
    | some text => readCounter text.toList
    | none => .error .invalidUtf8

def readStat (system : System κ) (name stat : String) : Call Error κ UInt64 := do
  let path := statPath name stat
  let action := "read statistic"
  if hasZeroByte path then fail (.os action name .zeroByteInPath)
  else
    let content : Content ← blame action name (system (.openFile path))
    ofExcept ((contentCounter content).mapError (.os action name))

/-- Links of a real system, by control requests, packet sockets and the files about its links. -/
def backend (system : System κ) (control : Control) : Backend κ where
  acquire := acquire system
  release := release system
  mac name := blame "read MAC address" name (system (.link control.inet (nameField name) .getMac))
  mtu name := blame "read MTU" name (system (.link control.inet (nameField name) .getMtu))
  request := request system control
  readStat := readStat system
  read descriptor limit := system (.read descriptor limit)
  write descriptor frame := system (.write descriptor frame)

end VirtualLink.Kernel
