import VirtualLink.Interface.Ownership
import VirtualLink.Interface.Traffic
import VirtualLink.MemoryLink
import VirtualLink.Proofs.Ensures

namespace VirtualLink

variable {σ : Type}

/-- An interface as it is created: nothing is set, nothing is reserved. -/
def Interface.new (name : String) (id : UInt32) (kind : Kind) (root : RootId) (capacity : Nat) : Interface :=
  { name, id, kind, pool := { root, capacity } }

/-- A call that changes what the next bring-up is to commit. -/
inductive Setter
  | mac (text : String)
  | ipv4 (text : String)
  | netmask (text : String)
  | broadcast (text : String)
  | ipv6 (texts : List String)
  | moreIpv6 (text : String)
  | mtu (size : UInt32)
  | entry (given : Entry)

def Setter.call : Setter → Call Error Interface Unit
  | .mac text => Interface.setMac text
  | .ipv4 text => Interface.setIpv4 text
  | .netmask text => Interface.setNetmask text
  | .broadcast text => Interface.setBroadcast text
  | .ipv6 texts => Interface.setIpv6 texts
  | .moreIpv6 text => Interface.addIpv6 text
  | .mtu size => Interface.setMtu size
  | .entry given => Interface.configure given

/-- A call of an interface that leaves the interface there. -/
inductive Action
  | set (setter : Setter)
  | up
  | down
  | send (packet : Packet)
  | receive
  | readStat (name : String)
  | clearStat (name : String)
  | snapshot

/-- What an interface answers to an action that it grants. -/
inductive Answer
  | done
  | packet (packet : Packet)
  | count (count : UInt64)
  | listing (listing : List (String × UInt64))
deriving DecidableEq

namespace Action

def call (backend : Backend σ) : Action → Call Error (Driven σ) Answer
  | .set setter => (fun _ => .done) <$> Driven.onInterface setter.call
  | .up => (fun _ => .done) <$> Driven.up backend
  | .down => (fun _ => .done) <$> Driven.down backend
  | .send packet => (fun _ => .done) <$> Driven.send backend packet
  | .receive => .packet <$> Driven.receive backend
  | .readStat name => .count <$> Driven.readStat backend name
  | .clearStat name => (fun _ => .done) <$> Driven.clearStat backend name
  | .snapshot => .listing <$> Driven.snapshot backend

/-- What is left after the actions, whichever of them are refused or fail. -/
def run (backend : Backend σ) (actions : List Action) (start : Driven σ) : Driven σ :=
  actions.foldl (fun state action => (action.call backend state).state) start

end Action

/-- What can happen between an interface, its memory link and the peer at the far end. -/
inductive Move
  | own (action : Action)
  | peerSend (frame : Bytes)
  | peerReceive
  | setStat (name : String) (value : UInt64)
  /-- The next call of the operation is going to fail. -/
  | arm (op : Op)

namespace Move

/-- What a move comes to. -/
inductive Outcome
  | own (result : Except Error Answer)
  | peerSend (result : Except MemoryLink.PeerFault Unit)
  | peerReceive (result : Except MemoryLink.PeerFault (Option Bytes))
  | setStat (result : Except Error Unit)
  | armed

/-- A move never fails: its outcome is the answer. -/
def call : Move → Call Empty (Driven MemoryLink) Outcome
  | .own action => .own <$> (action.call MemoryLink.backend).attempt
  | .peerSend frame => .peerSend <$> (Driven.onBackend (MemoryLink.peerSend frame)).attempt
  | .peerReceive => .peerReceive <$> (Driven.onBackend MemoryLink.peerReceive).attempt
  | .setStat name value => .setStat <$> (Driven.onBackend (MemoryLink.setStat name value)).attempt
  | .arm op => (fun _ => .armed) <$> Driven.onBackend (Call.modify (MemoryLink.arm op))

/-- What is left after the moves. -/
def run (moves : List Move) (start : Driven MemoryLink) : Driven MemoryLink :=
  moves.foldl (fun state move => (move.call state).state) start

/-- A move of the interface leaves what its call ensures. -/
theorem own_ensures {action : Action} {held : Driven MemoryLink → Prop} {driven : Driven MemoryLink}
    (acted : (action.call MemoryLink.backend).Ensures (fun _ => held) (fun _ => held) driven) :
    held ((Move.own action).call driven).state := by
  refine Call.ensures_state_iff.mp ?_
  simp only [Move.call, Call.ensures_map, Call.ensures_attempt]
  exact acted

/-- A property that every move keeps holds after every run. -/
theorem run_keeps {kept : Driven MemoryLink → Prop}
    (step : ∀ move driven, kept driven → kept (call move driven).state) (moves : List Move)
    {start : Driven MemoryLink} (before : kept start) : kept (run moves start) := by
  induction moves generalizing start with
  | nil => exact before
  | cons move rest ih => exact ih (step move start before)

end Move

end VirtualLink
