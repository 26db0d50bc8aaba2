import VirtualLink.Call

namespace VirtualLink

/-- A request about the link of a name, on a control socket or on a queue. -/
inductive LinkCall
  | attachQueue (flags : UInt16)
  | getIndex
  | getMtu
  | getMac
  | getFlags
  | setMtu (mtu : UInt32)
  | setMac (mac : Mac)
  | setFlags (flags : UInt16)
  | setAddress (addr : Ipv4)
  | setNetmask (mask : Ipv4)
  | setBroadcast (addr : Ipv4)
deriving DecidableEq

def LinkCall.Answer : LinkCall → Type
  | .getIndex => Nat
  | .getMtu => UInt32
  | .getMac => Mac
  | .getFlags => UInt16
  | _ => Unit

/-- What a file that could be opened holds. -/
inductive Content
  | text (bytes : Bytes)
  | directory

/-- The calls about the network that a program makes to its system. An opening stands for all the tries that it takes
until no signal interrupts it. -/
inductive Syscall
  /-- A socket for control requests, or a raw packet socket. -/
  | socket (endpoint : Endpoint)
  /-- Binds a packet socket to the link of an index. -/
  | bind (socket : Descriptor) (index : Nat)
  /-- A queue that belongs to no link yet. -/
  | openTun
  | link (descriptor : Descriptor) (name : Bytes) (call : LinkCall)
  | addIpv6 (socket : Descriptor) (index : Nat) (addr : Ipv6) (prefixLength : UInt8)
  | delIpv6 (socket : Descriptor) (index : Nat) (addr : Ipv6) (prefixLength : UInt8)
  /-- Asks whether a path leads anywhere. -/
  | stat (path : String)
  | openFile (path : String)
  | read (descriptor : Descriptor) (limit : Nat)
  | write (descriptor : Descriptor) (frame : Bytes)
  | close (descriptor : Descriptor)

def Syscall.Answer : Syscall → Type
  | .socket _ | .openTun => Descriptor
  | .link _ _ call => call.Answer
  | .openFile _ => Content
  | .read .. => Bytes
  | .write .. => Nat
  | .bind .. | .addIpv6 .. | .delIpv6 .. | .stat _ | .close _ => Unit

/-- A system, by how it answers every call. -/
abbrev System (κ : Type) := (call : Syscall) → Call Errno κ call.Answer

/-- Tries a call again while it is interrupted. -/
def retryInterrupted (call : Call Errno κ α) : Nat → Call Errno κ α
  | 0 => call
  | again + 1 => do
    match ← Call.attempt call with
    | .ok a => return a
    | .error errno => if errno = .interrupted then retryInterrupted call again else Call.fail errno

/-- The same system, on which an opening that a signal interrupts is tried again, this often at most. -/
def System.persistent (again : Nat) (system : System κ) : System κ
  | .openTun => retryInterrupted (system .openTun) again
  | .openFile path => retryInterrupted (system (.openFile path)) again
  | call => system call

/-- The name field of a link request: at most fifteen bytes of the name, and zeros up to sixteen. -/
def nameField (name : String) : Bytes :=
  let bytes := (utf8 name).take (nameFieldSize - 1)
  bytes ++ List.replicate (nameFieldSize - bytes.length) 0

/-- The name that a system reads from a name field: it ends at the first zero byte. -/
def fieldName (field : Bytes) : Bytes :=
  field.takeWhile (· ≠ 0)

theorem length_nameField (name : String) : (nameField name).length = nameFieldSize := by
  simp only [nameField, nameFieldSize, List.length_append, List.length_take, List.length_replicate]
  omega

end VirtualLink
