import VirtualLink.Interface

namespace VirtualLink

/-- Every IPv6 address is assigned with a prefix of this length. -/
def ipv6PrefixLength : UInt8 := 64

/-- An Ethernet header with one VLAN tag. -/
def frameOverhead : Nat := 18

/-- A request of a bring-up, the request that takes it back if it needs one of its own, and what the log says
once it is granted. -/
structure Step where
  request : Request
  undo : Option Request := none
  notes : List Event := []

/-- What a bring-up found on the link, and what it is to make of it. -/
structure Plan where
  previousMtu : UInt32
  /-- Read for a tap only; a tun has no hardware address to give back. -/
  previousMac : Option Mac
  mac : Mac
  mtu : UInt32

namespace Plan

def macSteps (plan : Plan) (name : String) : List Step :=
  match plan.previousMac with
  | some previous => [⟨.setMac plan.mac, some (.setMac previous), [.macSet name plan.mac]⟩]
  | none => []

def mtuStep (plan : Plan) (name : String) : Step :=
  ⟨.setMtu plan.mtu, some (.setMtu plan.previousMtu), [.mtuSet name plan.mtu]⟩

/-- The address and what goes with it. Taking the address back takes back all three. -/
def ipv4Requests (settings : Settings) : List Request :=
  match settings.ipv4 with
  | some addr =>
    .setIpv4 addr :: (settings.netmask.map .setNetmask).toList ++ (settings.broadcast.map .setBroadcast).toList
  | none => []

/-- Puts the notes on the last request, and what undoes all of them on the first. -/
def group (undo : Request) (notes : List Event) : List Request → List Step
  | [] => []
  | [only] => [⟨only, some undo, notes⟩]
  | first :: rest => ⟨first, some undo, []⟩ :: trail notes rest
where
  trail (notes : List Event) : List Request → List Step
    | [] => []
    | [last] => [⟨last, none, notes⟩]
    | next :: rest => ⟨next, none, []⟩ :: trail notes rest

def ipv4Steps (name : String) (settings : Settings) : List Step :=
  group .clearIpv4 (settings.ipv4.map (.ipv4Set name)).toList (ipv4Requests settings)

def ipv6Steps (name : String) (settings : Settings) : List Step :=
  settings.ipv6.map fun addr =>
    ⟨.addIpv6 addr ipv6PrefixLength, some (.delIpv6 addr ipv6PrefixLength), [.ipv6Added addr ipv6PrefixLength name]⟩

/-- Everything that is asked of an open link, in order. -/
def steps (plan : Plan) (name : String) (settings : Settings) : List Step :=
  plan.macSteps name ++ plan.mtuStep name :: ipv4Steps name settings ++ ipv6Steps name settings
    ++ [⟨.setAdmin true, none, []⟩]

end Plan

/-- Why a bring-up stopped, and the requests that take back what it had done, the last one first. -/
structure Setback where
  error : Error
  undo : List Request

namespace Backend

variable {ε σ : Type}

/-- Makes the requests of the steps in order until one is refused. `undo` takes back what was done before. -/
def runSteps (backend : Backend σ) (name : String) (undo : List Request) : List Step → Call Setback σ Unit
  | [] => pure ()
  | step :: rest => do
    (backend.request name step.request).mapError fun error => ⟨error, undo⟩
    Call.logAll step.notes
    backend.runSteps name (step.undo.toList ++ undo) rest

/-- Makes the requests, whichever of them fail. -/
def takeBack (backend : Backend σ) (name : String) : List Request → Call ε σ Unit
  | [] => pure ()
  | change :: rest => do
    match ← (backend.request name change).attempt with
    | .ok () => pure ()
    | .error error => Call.log (.undoFailed change.undoLabel name error)
    backend.takeBack name rest

end Backend

namespace Driven

open Call

variable {ε σ : Type}

/-- A step that has nothing to take back yet. -/
def unstarted (call : Call Error (Driven σ) α) : Call Setback (Driven σ) α :=
  call.mapError fun error => ⟨error, []⟩

/-- Reads what the open link has now, and reserves the memory for its frames. An attached link keeps its MTU
unless one was chosen. -/
def prepare (backend : Backend σ) (origin : Origin) (mac : Mac) : Call Error (Driven σ) Plan := do
  let iface ← iface?
  let previousMtu ← onBackend (backend.mtu iface.name)
  let adopt := origin = .attached ∧ ¬ iface.mtuChosen
  let mtu := if adopt then previousMtu else iface.settings.mtu
  if adopt then log (.adoptedMtu previousMtu iface.name)
  onPool (Pool.reserve (mtu.toNat + frameOverhead))
  let previousMac ←
    if iface.kind.isTap then some <$> onBackend (backend.mac iface.name) else pure none
  return { previousMtu, previousMac, mac, mtu }

/-- Gives the open link its settings. -/
def commit (backend : Backend σ) (origin : Origin) (mac : Mac) : Call Setback (Driven σ) Plan := do
  let plan ← unstarted (prepare backend origin mac)
  let iface ← iface?
  onBackend (backend.runSteps iface.name [] (plan.steps iface.name iface.settings))
  return plan

/-- Hands the queues back to the backend, if there are any. -/
def releaseQueues (backend : Backend σ) : Call Error (Driven σ) Unit := do
  let iface ← iface?
  match iface.pool.queues with
  | none => pure ()
  | some queues =>
    update fun iface => { iface with pool := { iface.pool with queues := none } }
    onBackend (backend.release iface.name queues)

/-- Undoes what was done to the link, last step first, and closes it. -/
def rollBack (backend : Backend σ) (undo : List Request) : Call ε (Driven σ) Unit := do
  let iface ← iface?
  onBackend (backend.takeBack iface.name undo)
  match ← (releaseQueues backend).attempt with
  | .ok () => pure ()
  | .error error => log (.undoFailed "Opened" iface.name error)

/-- Opens the link and gives it the settings. Whatever fails is undone before the error is passed on. -/
def bringUp (backend : Backend σ) (mac : Mac) : Call Error (Driven σ) (Plan × Origin) := do
  let iface ← iface?
  match ← (onBackend (backend.acquire iface.name iface.kind)).attempt with
  | .error error =>
    log (.bringUpFailed iface.name error)
    log (.rolledBack iface.name)
    fail error
  | .ok queues =>
    log (.opened queues.origin iface.name)
    update fun iface => { iface with pool := { iface.pool with queues := some queues } }
    match ← (commit backend queues.origin mac).attempt with
    | .ok plan => return (plan, queues.origin)
    | .error setback =>
      log (.bringUpFailed iface.name setback.error)
      rollBack backend setback.undo
      log (.rolledBack iface.name)
      fail setback.error

/-- The hardware address that a bring-up commits: the one that was set, or else a generated one. -/
def chosenMac (iface : Interface) : Mac :=
  iface.settings.mac.getD (Mac.generate iface.id iface.name)

/-- Commits all of the settings, or nothing. -/
def up (backend : Backend σ) : Call Error (Driven σ) Unit := do
  let iface ← iface?
  if iface.isUp then fail (iface.stateError "up")
  else
    check iface.settings.check
    let mac := chosenMac iface
    log (.bringingUp iface.kind iface.name)
    let (plan, origin) ← bringUp backend mac
    update fun iface =>
      { iface with
        settings := { iface.settings with mac := some mac, mtu := plan.mtu }
        restore := if origin = .attached then some ⟨plan.previousMac, plan.previousMtu⟩ else none
        isUp := true }
    log (.isUp iface.name)

end Driven

end VirtualLink
