import Mathlib.Data.List.Forall2
import VirtualLink.Proofs.Ready

namespace VirtualLink

open Call Driven

namespace Move

def isReceive : Move → Bool
  | .own .receive => true
  | _ => false

/-- The frames that the receives among the moves come to take, the oldest first. -/
def taken : List Bytes → List Move → List (Option Bytes)
  | _, [] => []
  | pending, move :: rest =>
    if move.isReceive then pending.head? :: taken (move.pendingAfter pending) rest
    else taken (move.pendingAfter pending) rest

/-- What the receives among the moves answer. -/
def received : List Move → Driven MemoryLink → List (Except Error Packet)
  | [], _ => []
  | move :: rest, start =>
    if move.isReceive then (Driven.receive MemoryLink.backend start).result :: received rest (move.call start).state
    else received rest (move.call start).state

end Move

/-- A frame that fits a packet arrives with all of its bytes, and any other is refused. -/
def Packet.Whole : Option Bytes → Except Error Packet → Prop
  | none, answer => answer = .ok Packet.empty
  | some frame, answer =>
    if frame.length ≤ maxPayload then ∃ packet, answer = .ok packet ∧ packet.payload = frame
    else ∃ length, answer = .error (.frameTooLarge length)

/-- A frame that is cut to less than is too long for a packet passes for a shorter one. -/
theorem Packet.whole_arrival_iff {room : Nat} {frame : Bytes} :
    Whole (some frame) (arrival room (some frame)) ↔ maxPayload < room ∨ frame.length ≤ room := by
  by_cases short : (frame.take room).length ≤ maxPayload
  · rw [arrival_short short]
    constructor
    · intro whole
      by_cases fits : frame.length ≤ maxPayload
      · rw [Whole, if_pos fits] at whole
        obtain ⟨packet, ⟨⟩, all⟩ := whole
        have length := congrArg List.length all
        rw [List.length_take] at length
        omega
      · rw [Whole, if_neg fits] at whole
        obtain ⟨_, ⟨⟩⟩ := whole
    · intro wide
      rw [List.length_take] at short
      have all : frame.take room = frame := List.take_of_length_le (by omega)
      rw [Whole, if_pos (by omega)]
      exact ⟨_, rfl, all⟩
  · have long : ¬ frame.length ≤ maxPayload := by
      rw [List.length_take] at short
      omega
    rw [List.length_take] at short
    refine ⟨fun _ => .inl (by omega), fun _ => ?_⟩
    rw [Whole, if_neg long]
    exact ⟨_, if_pos (by rw [List.length_take]; omega)⟩

/-- As long as the interface stays up, every receive takes the oldest frame that none has taken yet. -/
theorem Ready.received_eq {standing : Standing} {pending : List Bytes} {driven : Driven MemoryLink}
    (ready : Ready standing pending driven) :
    ∀ moves : List Move, .own .down ∉ moves →
      Move.received moves driven = (Move.taken pending moves).map (Packet.arrival standing.used) := by
  intro moves stays
  induction moves generalizing driven pending with
  | nil => rfl
  | cons move rest ih =>
    rw [List.mem_cons, not_or] at stays
    have later := ih (ready.step move (Ne.symm stays.1)) stays.2
    unfold Move.received Move.taken
    rw [ready.answer, later]
    split <;> rfl

namespace MemoryLink

variable {iface : Interface} {link : MemoryLink}

/-- After a bring-up the receives take the frames in order, each cut to the scratch buffer. They lose no bytes if
and only if the buffer is longer than a packet, or none of the frames is longer than the buffer. -/
theorem received_whole_iff (down : iface.isUp = false) (brought : (Driven.up backend ⟨iface, link⟩).result = .ok ())
    (moves : List Move) (stays : .own .down ∉ moves) :
    let start := (Driven.up backend ⟨iface, link⟩).state
    let room := start.iface.settings.mtu.toNat + frameOverhead
    Move.received moves start = (Move.taken [] moves).map (Packet.arrival room)
      ∧ (List.Forall₂ Packet.Whole (Move.taken [] moves) (Move.received moves start)
        ↔ maxPayload < room ∨ ∀ frame, some frame ∈ Move.taken [] moves → frame.length ≤ room) := by
  intro start room
  obtain ⟨ready, used⟩ := (up_ready down).of_ok brought
  have received := ready.received_eq moves stays
  rw [used] at received
  refine ⟨received, ?_⟩
  rw [received, List.forall₂_map_right_iff, List.forall₂_same]
  constructor
  · intro whole
    by_cases wide : maxPayload < room
    · exact .inl wide
    · refine .inr fun frame arrived => ?_
      exact (Packet.whole_arrival_iff.mp (whole _ arrived)).resolve_left wide
  · rintro enough (_ | frame) arrived
    · rfl
    · exact Packet.whole_arrival_iff.mpr (enough.imp_right fun short => short frame arrived)

/-- An interface that is to have this MTU, and a link that it will create. -/
def alone (mtu : UInt32) : Driven MemoryLink where
  iface :=
    { name := "tap0"
      id := 0
      kind := .tap
      settings := { mac := some initialMac, mtu }
      mtuChosen := true
      pool := { root := 0, capacity := defaultCapacity } }
  backend := {}

theorem received_whole_iff_wide :
    List.Forall₂ Packet.Whole [some (List.replicate 300 7), some [1, 2, 3], none]
      (Move.received
        [.peerSend (List.replicate 300 7), .peerSend [1, 2, 3], .own .receive, .own .receive, .own .receive]
        (Driven.up backend (alone 1500)).state) := by
  have brought : (Driven.up backend (alone 1500)).result.isOk = true := by decide
  have wide : maxPayload < (Driven.up backend (alone 1500)).state.iface.settings.mtu.toNat + frameOverhead := by
    decide
  -- The start is kept from being evaluated again below.
  generalize given : alone 1500 = start at brought wide ⊢
  cases up : (Driven.up backend start).result with
  | error => simp [up, Except.isOk, Except.toBool] at brought
  | ok =>
    subst given
    exact (received_whole_iff (by decide) up
      [.peerSend (List.replicate 300 7), .peerSend [1, 2, 3], .own .receive, .own .receive, .own .receive]
      (by simp only [List.mem_cons, reduceCtorEq, Move.own.injEq, List.not_mem_nil, or_self, not_false_eq_true])).2.mpr
      (.inl wide)

/-- At the least MTU, 86 bytes arrive of 100, and just as many of 300. -/
theorem received_cut_short :
    (Driven.up backend (alone 68)).result.isOk = true
      ∧ (Move.received
          [.peerSend (List.replicate 100 7), .peerSend (List.replicate 300 7), .own .receive, .own .receive]
          (Driven.up backend (alone 68)).state).map (fun answer => answer.toOption.map Packet.length)
        = [some 86, some 86] := by
  decide

end MemoryLink

end VirtualLink
