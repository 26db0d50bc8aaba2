import VirtualLink.Call

namespace VirtualLink

/-- Names a root for as long as something refers to it. -/
abbrev RootId := Nat

/-- What a root shares with the pools taken from it. -/
structure Root where
  /-- How many bytes each of its pools hands out at most. -/
  capacity : Nat
  /-- How many of its pools are still held. -/
  live : Nat := 0
  /-- The id that the next interface gets if it brings none. -/
  nextId : UInt32 := 0
deriving DecidableEq, Inhabited

/-- Every root so far, oldest first, and whether one of them has a live handle. A root whose handle is gone
goes on counting the pools that it gave out. -/
structure Registry where
  rootLive : Bool := false
  roots : List Root := []
deriving DecidableEq, Inhabited

/-- The memory and the queues of one interface. -/
structure Pool where
  root : RootId
  capacity : Nat
  scratch : Bytes := []
  queues : Option Queues := none
deriving DecidableEq, Inhabited

def defaultCapacity : Nat := 1048576

namespace Registry

def root (registry : Registry) (id : RootId) : Root :=
  (registry.roots[id]?).getD default

def updateRoot (id : RootId) (f : Root → Root) (registry : Registry) : Registry :=
  { registry with roots := registry.roots.modify id f }

/-- Refused while another root has a live handle. -/
def createRoot (capacity : Nat) : Call Error Registry RootId := do
  let registry ← Call.get
  if registry.rootLive then Call.fail .rootPoolLive
  else
    Call.modify fun _ => { rootLive := true, roots := registry.roots ++ [{ capacity }] }
    Call.log (.rootCreated capacity)
    return registry.roots.length

/-- Gives the handle up, whatever still depends on the root. -/
def dropRoot (id : RootId) : Call ε Registry Unit := do
  Call.modify fun registry => { registry with rootLive := false }
  let live := ((← Call.get).root id).live
  if live > 0 then Call.log (.rootDropped live)

/-- Refused while pools of the root are held. -/
def destroyRoot (id : RootId) : Call Rejection Registry Unit := do
  let live := ((← Call.get).root id).live
  if live > 0 then Call.fail (.poolsLive live)
  else
    dropRoot id
    Call.log .rootDestroyed

/-- Draws from the creation sequence, which moves on even if the caller brings an id of its own. -/
def drawId (id : RootId) (explicit : Option UInt32) : Call ε Registry UInt32 := do
  let drawn := ((← Call.get).root id).nextId
  Call.modify (updateRoot id fun root => { root with nextId := root.nextId + 1 })
  return explicit.getD drawn

def takePool (id : RootId) : Call ε Registry Pool := do
  let capacity := ((← Call.get).root id).capacity
  Call.modify (updateRoot id fun root => { root with live := root.live + 1 })
  return { root := id, capacity }

/-- Gives a pool back to its root. -/
def dropPool (pool : Pool) : Call ε Registry Unit := do
  Call.modify (updateRoot pool.root fun root => { root with live := root.live - 1 })
  Call.log (.poolReleased ((← Call.get).root pool.root).live)

end Registry

namespace Pool

def used (pool : Pool) : Nat :=
  pool.scratch.length

/-- Makes the scratch buffer exactly `length` zero bytes. -/
def reserve (length : Nat) : Call Error Pool Unit := do
  let pool ← Call.get
  if length > pool.capacity then Call.fail (.poolExhausted length pool.capacity)
  else Call.modify fun pool => { pool with scratch := List.replicate length 0 }

/-- Overwrites the whole scratch buffer. -/
def fill (byte : UInt8) (pool : Pool) : Pool :=
  { pool with scratch := pool.scratch.map fun _ => byte }

/-- Frees the scratch buffer and closes queues that are still held; `close` tells how it goes to close them. -/
def release (close : Queues → Except Errno Unit) : Call Error Pool Unit := do
  let held := (← Call.get).queues
  Call.modify fun pool => { pool with scratch := [], queues := none }
  match held with
  | some queues => Call.ofExcept ((close queues).mapError fun errno => .io (.errno errno))
  | none => pure ()

/-- Writes the bytes over the front of the scratch buffer. -/
def store (bytes : Bytes) (pool : Pool) : Pool :=
  { pool with scratch := bytes ++ pool.scratch.drop bytes.length }

end Pool

end VirtualLink
