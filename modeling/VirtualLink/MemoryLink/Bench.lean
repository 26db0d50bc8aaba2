import VirtualLink.MemoryLink

namespace VirtualLink

/-- A memory link under test: operations that fail at every call, and queues that fail. -/
structure Bench where
  link : MemoryLink := {}
  /-- Before each call of one of these the link is told to refuse it. -/
  standing : List Op := []
  brokenQueues : Bool := false
  /-- The broken queues that have taken what they take. -/
  spent : List Nat := []
deriving DecidableEq, Inhabited

namespace Bench

def broken : Bench :=
  { brokenQueues := true }

def onLink (call : Call ε MemoryLink α) : Call ε Bench α :=
  call.zoom Bench.link fun link bench => { bench with link }

/-- Replaces whatever the link was to refuse. -/
def rearm (op : Op) : Call ε Bench Unit := do
  if op ∈ (← Call.get).standing then onLink (Call.modify (MemoryLink.arm op))

/-- Exchanges the queues of a link for broken ones, if it has such. The near end of the pair closes then. -/
def exchange (queues : Queues) : Call ε Bench Queues := do
  let bench ← Call.get
  if bench.brokenQueues then
    onLink (Call.modify (MemoryLink.close queues.rx))
    let broken : Descriptor := ⟨.broken bench.link.id, queues.rx.number⟩
    return { queues with rx := broken, tx := broken }
  else return queues

/-- How much the first write to a broken queue takes. -/
def brokenRoom : Nat := 8

/-- A broken queue takes a few bytes once. -/
def writeBroken (number : Nat) (frame : Bytes) : Call Errno Bench Nat := do
  if number ∈ (← Call.get).spent then Call.fail .fileTooLarge
  else
    Call.modify fun bench => { bench with spent := number :: bench.spent }
    return min frame.length brokenRoom

def withdraw (name : String) : Call Error Bench Unit := do
  rearm .release
  onLink (MemoryLink.withdraw name)

def backend : Backend Bench where
  acquire name kind := do
    rearm .acquire
    exchange (← onLink (MemoryLink.acquire name kind))
  release name queues := do
    rearm .release
    onLink (MemoryLink.release name queues)
  mac name := onLink (MemoryLink.backend.mac name)
  mtu name := onLink (MemoryLink.backend.mtu name)
  request name change := do
    rearm change.op
    onLink (MemoryLink.request name change)
  readStat name stat := do
    rearm .readStat
    onLink (MemoryLink.readStat name stat)
  read descriptor limit :=
    match descriptor.endpoint with
    | .broken _ => Call.fail .badDescriptor
    | _ => onLink (MemoryLink.read descriptor limit)
  write descriptor frame :=
    match descriptor.endpoint with
    | .broken _ => writeBroken descriptor.number frame
    | _ => onLink (MemoryLink.write descriptor frame)

end Bench

end VirtualLink
