import VirtualLink.Interface.TearDown

namespace VirtualLink.Interface

open Call

variable {ε σ : Type}

/-- Takes a pool and an id from the root. A refused name takes neither. -/
def create (root : RootId) (name : String) (kind : Kind) (id : Option UInt32) : Call Error Registry Interface := do
  check (checkName name)
  let id ← Registry.drawId root id
  let pool ← Registry.takePool root
  log (.interfaceCreated kind name id)
  return { name, id, kind, pool }

/-- Creates an interface and configures it. If the entry is refused, the pool goes back to the root. -/
def ofEntry (root : RootId) (name : String) (entry : Entry) : Call Error Registry Interface := do
  let iface ← create root name entry.kind entry.id
  let configured := configure entry iface
  logAll configured.events
  match configured.result with
  | .ok () => return configured.state
  | .error error =>
    Registry.dropPool iface.pool
    fail error

/-- Refused while the interface is up; the handle then stays. The interface is gone even if its pool cannot be
released. -/
def destroy (iface : Interface) (close : Queues → Except Errno Unit := fun _ => .ok ()) :
    Call Rejection Registry Unit := do
  if iface.isUp then fail (.interfaceUp iface.name)
  else
    match (Pool.release close iface.pool).result with
    | .ok () => pure ()
    | .error error => log (.releaseFailed iface.name error)
    log (.interfaceDestroyed iface.name)
    Registry.dropPool iface.pool

/-- Gives the interface up. One that is up goes down first, as well as it can. -/
def drop (backend : Backend σ) (iface : Interface) : Call ε (Registry × σ) Unit := do
  if iface.isUp then
    let (registry, state) ← Call.get
    let reply := Driven.down backend ⟨iface, state⟩
    logAll reply.events
    Call.modify fun _ => (registry, reply.state.backend)
    match reply.result with
    | .ok () => pure ()
    | .error error => log (.dropFailed iface.name error)
  (Registry.dropPool iface.pool).zoom Prod.fst fun registry (_, state) => (registry, state)

end VirtualLink.Interface
