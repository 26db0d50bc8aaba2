import VirtualLink.Proofs.Lasting
import VirtualLink.Proofs.MemoryLink.BringUp
import VirtualLink.Proofs.MemoryLink.Channel

namespace VirtualLink

open Call Driven

/-- The answer to a receive that takes this frame into a buffer of this size. -/
def Packet.arrival (room : Nat) : Option Bytes → Except Error Packet
  | none => .ok Packet.empty
  | some frame =>
    if (frame.take room).length > maxPayload then .error (.frameTooLarge (frame.take room).length)
    else Packet.ofPayload (frame.take room)

theorem Packet.arrival_short {room : Nat} {frame : Bytes} (short : (frame.take room).length ≤ maxPayload) :
    arrival room (some frame) = .ok ⟨frame.take room, short⟩ := by
  simp only [arrival, if_neg (Nat.not_lt.mpr short), ofPayload, dif_pos short]

/-- What is on its way to the interface after a move that leaves it up. -/
def Move.pendingAfter (pending : List Bytes) : Move → List Bytes
  | .peerSend frame => pending ++ [frame]
  | .own .receive => pending.tail
  | _ => pending

/-- What of an interface and its link stands still while the interface is up. -/
structure Standing where
  kind : Kind
  settings : Settings
  queues : Option Queues
  used : Nat
  capacity : Nat
  attached : Bool
  state : LinkState

def Driven.standing (driven : Driven MemoryLink) : Standing where
  kind := driven.iface.kind
  settings := driven.iface.settings
  queues := driven.iface.pool.queues
  used := driven.iface.pool.used
  capacity := driven.iface.pool.capacity
  attached := driven.backend.attached
  state := driven.backend.state

/-- The interface is up, and its queues are the pair at whose far end the peer is. -/
structure Ready (standing : Standing) (pending : List Bytes) (driven : Driven MemoryLink) : Prop where
  up : driven.iface.isUp = true
  queues : ∃ queues, driven.iface.pool.queues = some queues ∧ queues.tx = queues.rx
    ∧ driven.backend.Plugged queues.rx.number pending
  stands : driven.standing = standing

namespace Ready

variable {standing : Standing} {pending : List Bytes} {driven : Driven MemoryLink}

theorem lasting : Lasting MemoryLink.backend (Ready standing pending) where
  settings _ iface _ _ down before := absurd before.up (by simp [down])
  counters _ _ before := ⟨before.up, before.queues, before.stands⟩
  readStat driven stat before := by
    obtain ⟨up, ⟨queues, held, ends, plugged⟩, stands⟩ := before
    refine (ensures_onBackend _).mpr (MemoryLink.readStat_ensures _ stat (fun _ fault => ?_) fun _ fault => ?_)
    · exact ⟨up, ⟨queues, held, ends, plugged.peer, plugged.pair⟩, stands⟩
    · exact ⟨up, ⟨queues, held, ends, plugged.peer, plugged.pair⟩, stands⟩
  write driven queues frame _ held before := by
    obtain ⟨up, ⟨_, known, ends, plugged⟩, stands⟩ := before
    obtain rfl := Option.some.inj (known.symm.trans held)
    refine (ensures_onBackend _).mpr (MemoryLink.write_ensures (ends ▸ plugged) fun pairs still _ => ?_)
    exact ⟨up, ⟨_, held, ends, ends ▸ still⟩, stands⟩

theorem receive (ready : Ready standing pending driven) :
    (Driven.receive MemoryLink.backend).Ensures
      (fun packet after =>
        .ok packet = Packet.arrival standing.used pending.head? ∧ Ready standing pending.tail after
          ∧ after.backend.waiting = driven.backend.waiting)
      (fun error after =>
        .error error = Packet.arrival standing.used pending.head? ∧ Ready standing pending.tail after
          ∧ after.backend.waiting = driven.backend.waiting) driven := by
  obtain ⟨up, ⟨queues, held, ends, plugged⟩, rfl⟩ := ready
  simp only [Driven.receive, requireQueues, ensures_bind, ensures_iface?, held, up, ensures_pure, ensures_attempt,
    ensures_onBackend, MemoryLink.backend_read]
  refine MemoryLink.read_ensures plugged ?_ ?_
  · rintro rfl
    simp only [if_true, ensures_pure]
    exact ⟨rfl, ⟨up, ⟨queues, held, ends, plugged⟩, rfl⟩, trivial⟩
  · rintro frame rest pairs rfl later waits
    have stored : (driven.iface.pool.store (frame.take driven.iface.pool.used)).used = driven.iface.pool.used := by
      simp only [Pool.store, Pool.used, List.length_append, List.length_drop, List.length_take]
      omega
    have after : Ready driven.standing rest
        ⟨{ driven.iface with pool := driven.iface.pool.store (frame.take driven.iface.pool.used) },
          { driven.backend with pairs }⟩ := by
      refine ⟨up, ⟨queues, held, ends, later⟩, ?_⟩
      simp only [standing, stored]
      rfl
    simp only [ensures_bind, ensures_onPool, ensures_modify, ensures_ite, ensures_fail, ensures_log]
    split
    · rename_i long
      exact ⟨(if_pos long).symm, after, waits⟩
    · rename_i short
      have fits : (frame.take driven.iface.pool.used).length ≤ maxPayload := Nat.not_lt.mp short
      simp only [Packet.ofPayload, dif_pos fits, ensures_ofExcept_ok]
      refine ⟨?_, after, waits⟩
      exact (Packet.arrival_short fits).symm

theorem answer (ready : Ready standing pending driven) :
    (Driven.receive MemoryLink.backend driven).result = Packet.arrival standing.used pending.head? := by
  cases answered : (Driven.receive MemoryLink.backend driven).result with
  | ok packet => exact (ready.receive.of_ok answered).1
  | error error => exact (ready.receive.of_error answered).1

/-- Whatever is done to an interface that is up leaves it ready, except to take it down. -/
theorem step (ready : Ready standing pending driven) (move : Move) (stays : move ≠ .own .down) :
    Ready standing (move.pendingAfter pending) (move.call driven).state := by
  have ⟨up, ⟨queues, held, ends, plugged⟩, stands⟩ := ready
  cases move with
  | own action =>
    have other (raise : action ≠ .up) (lower : action ≠ .down) (arrive : action ≠ .receive) :
        Ready standing pending ((Move.own action).call driven).state :=
      Move.own_ensures (lasting.call action raise lower arrive driven ready)
    cases action with
    | up => exact Move.own_ensures ((ensures_map _ _).mpr (up_refused up ready))
    | down => exact absurd rfl stays
    | receive =>
      refine Move.own_ensures ((ensures_map _ _).mpr ?_)
      exact ready.receive.mono (fun _ _ received => received.2.1) fun _ _ received => received.2.1
    | _ => exact other (by simp) (by simp) (by simp)
  | peerSend frame =>
    refine ensures_state_iff.mp ?_
    simp only [Move.call, ensures_map, ensures_attempt, ensures_onBackend]
    exact MemoryLink.peerSend_ensures plugged fun pairs counters sent _ =>
      ⟨up, ⟨queues, held, ends, sent⟩, stands⟩
  | peerReceive =>
    refine ensures_state_iff.mp ?_
    simp only [Move.call, ensures_map, ensures_attempt, ensures_onBackend]
    exact MemoryLink.peerReceive_ensures plugged fun pairs counters still _ =>
      ⟨up, ⟨queues, held, ends, still⟩, stands⟩
  | setStat name value =>
    refine ensures_state_iff.mp ?_
    simp only [Move.call, ensures_map, ensures_attempt, ensures_onBackend, MemoryLink.setStat, ensures_bind]
    cases Stat.ofName name with
    | error error => exact ready
    | ok index => exact ⟨up, ⟨queues, held, ends, plugged.peer, plugged.pair⟩, stands⟩
  | arm op => exact ⟨up, ⟨queues, held, ends, plugged.peer, plugged.pair⟩, stands⟩

end Ready

namespace MemoryLink

variable {iface : Interface} {link : MemoryLink}

theorem reopened_nextPair (kind : Kind) : (link.reopened kind).nextPair = link.nextPair := by
  unfold reopened
  split <;> rfl

theorem opened_plugged (kind : Kind) : (link.opened kind).Plugged link.nextPair [] := by
  refine ⟨congrArg some (reopened_nextPair kind), { number := link.nextPair }, ?_, rfl, rfl⟩
  change (_ :: _ : List Pair).find? _ = _
  simp [record, reopened_nextPair]

theorem opened_waiting (kind : Kind) : (link.opened kind).waiting = [] := by
  simp [waiting, opened, connect, record, pair?, reopened_nextPair]

/-- After a bring-up nothing is on its way to the interface yet. -/
theorem raised_ready (plan : Plan) (size : Nat) (requests : List Request) :
    let driven : Driven MemoryLink :=
      ⟨((iface.reserved size).holding (some link.newQueues)).raised plan link.origin,
        (link.opened iface.kind).granted requests⟩
    Ready driven.standing [] driven :=
  have plugged := link.opened_plugged iface.kind
  ⟨rfl, ⟨link.newQueues, rfl, rfl, plugged.peer, plugged.pair⟩, rfl⟩

theorem up_ready (down : iface.isUp = false) :
    (Driven.up backend).Ensures
      (fun _ after => Ready after.standing [] after
        ∧ after.standing.used = after.iface.settings.mtu.toNat + frameOverhead)
      (fun _ _ => True) ⟨iface, link⟩ := by
  cases there : (link.opened iface.kind).state.exists? with
  | false => exact (up_absent there down).mono (fun _ _ never => never.elim) fun _ _ _ => trivial
  | true =>
    refine up_ensures there down ?invalid ?unopened ?exhausted ?stopped ?brought
    case brought => exact fun _ _ _ _ => ⟨raised_ready _ _ _, List.length_replicate⟩
    all_goals intros; exact trivial

end MemoryLink

end VirtualLink
