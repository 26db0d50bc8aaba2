import VirtualLink.Proofs.Idle
import VirtualLink.Proofs.MemoryLink.TearDown
import VirtualLink.Proofs.Ready

namespace VirtualLink

open Call Driven

/-- A link that was created is gone, and the interface holds nothing of it. -/
structure Gone (driven : Driven MemoryLink) : Prop where
  absent : driven.backend.state.exists? = false
  adminDown : driven.backend.state.adminUp = false
  unplugged : driven.backend.peer = none
  released : driven.iface.pool.queues = none

/-- A link that was created is there, and has what the interface is set to. -/
structure Standing.InForce (standing : Standing) : Prop where
  present : standing.state.exists? = true
  adminUp : standing.state.adminUp = true
  queues : ∃ queues, standing.queues = some queues ∧ queues.origin = .created
  mtu : standing.state.mtu = standing.settings.mtu
  ipv4 : standing.state.ipv4 = standing.settings.ipv4
  netmask : standing.state.netmask = standing.settings.netmask
  broadcast : standing.state.broadcast = standing.settings.broadcast
  ipv6 : standing.state.ipv6 = standing.settings.ipv6.map (·, ipv6PrefixLength)
  mac : if standing.kind.isTap then standing.settings.mac = some standing.state.mac
    else standing.state.mac = initialMac
  room : standing.used = standing.settings.mtu.toNat + frameOverhead
  fits : standing.used ≤ standing.capacity

/-- The interface is down, and the link that it creates is gone. -/
structure Resting (driven : Driven MemoryLink) : Prop extends Gone driven where
  down : driven.iface.isUp = false
  created : driven.backend.attached = false

/-- A link that only its interface creates is gone while the interface is down, and as it was set while it is up. -/
inductive Agreed (driven : Driven MemoryLink) : Prop
  | resting (resting : Resting driven)
  | inForce {pending : List Bytes} (ready : Ready driven.standing pending driven)
    (created : driven.backend.attached = false) (inForce : driven.standing.InForce)

namespace Resting

variable {driven : Driven MemoryLink}

/-- Nothing but a bring-up changes a link that is gone. -/
theorem step (resting : Resting driven) (move : Move) (stays : move ≠ .own .up) :
    Resting (move.call driven).state := by
  obtain ⟨settings, mtuChosen, tallies, counters, fault, idled⟩ :=
    Idled.step resting.down resting.unplugged move stays
  rw [idled]
  exact ⟨⟨resting.absent, resting.adminDown, resting.unplugged, resting.released⟩, resting.down, resting.created⟩

end Resting

namespace MemoryLink

variable {iface : Interface} {link : MemoryLink}

theorem opened_state_of_created (kind : Kind) (created : link.attached = false) :
    (link.opened kind).state =
      { exists? := true
        kind := some kind
        opens := link.state.opens + 1
        log := link.state.log ++ [.acquire] } := by
  simp [opened, reopened, created, connect, record]

theorem released_resting (queues : Queues) (down : iface.isUp = false) (released : iface.pool.queues = none)
    (created : link.attached = false) : Resting ⟨iface, link.released queues⟩ := by
  obtain ⟨unplugged, attached, gone⟩ := released_gone link queues
  obtain ⟨absent, adminDown⟩ := gone created
  exact ⟨⟨absent, adminDown, unplugged, released⟩, down, attached.trans created⟩

/-- A bring-up that is granted everything makes the link what the interface is set to. -/
theorem raised_inForce (created : link.attached = false) (valid : iface.settings.check = .ok ())
    (room : (planFor iface (link.opened iface.kind)).room ≤ iface.pool.capacity) :
    let plan := planFor iface (link.opened iface.kind)
    (Driven.standing
      ⟨((iface.reserved plan.room).holding (some link.newQueues)).raised plan link.origin,
        (link.opened iface.kind).granted ((plan.steps iface.name iface.settings).map Step.request)⟩).InForce := by
  intro plan
  have opened := opened_state_of_created iface.kind created
  have bare : (link.opened iface.kind).state.ipv4 = none ∧ (link.opened iface.kind).state.netmask = none
      ∧ (link.opened iface.kind).state.broadcast = none ∧ (link.opened iface.kind).state.ipv6 = [] := by
    rw [opened]
    exact ⟨rfl, rfl, rfl, rfl⟩
  have granted :=
    (link.opened iface.kind).state.grantAll_eq ((plan.steps iface.name iface.settings).map Step.request)
  rw [LinkState.applyAll_steps plan iface.name bare (Settings.companions_of_check valid), opened] at granted
  unfold standing
  simp only [MemoryLink.granted, opened, granted]
  constructor
  case queues => exact ⟨_, rfl, by simp [newQueues, origin, created]⟩
  case mac =>
    cases tap : iface.kind.isTap <;>
      simp [Interface.raised, Interface.holding, Interface.reserved, plan, planFor, tap]
  case room => exact List.length_replicate
  case fits => exact Nat.le_trans (Nat.le_of_eq List.length_replicate) room
  all_goals rfl

end MemoryLink

namespace Agreed

variable {driven : Driven MemoryLink}

theorem up (resting : Resting driven) :
    (Driven.up MemoryLink.backend).Ensures (fun _ => Agreed) (fun _ => Agreed) driven := by
  obtain ⟨iface, link⟩ := driven
  have down : iface.isUp = false := resting.down
  have created : link.attached = false := resting.created
  have stays : (link.opened iface.kind).attached = false := (MemoryLink.opened_attached _).trans created
  have there : (link.opened iface.kind).state.exists? = true := by
    rw [MemoryLink.opened_state_of_created iface.kind created]
  refine MemoryLink.up_ensures there down ?invalid ?unopened ?exhausted ?stopped ?brought
  case invalid => exact fun _ _ => .resting resting
  case unopened =>
    exact fun _ =>
      .resting ⟨⟨resting.absent, resting.adminDown, resting.unplugged, resting.released⟩, down, created⟩
  case exhausted => exact fun _ => .resting (MemoryLink.released_resting _ down rfl stays)
  case stopped => exact fun _ _ _ _ _ _ => .resting (MemoryLink.released_resting _ down rfl stays)
  case brought =>
    exact fun valid _ room _ => .inForce (MemoryLink.raised_ready _ _ _) stays
      (MemoryLink.raised_inForce created valid room)

theorem down (up : driven.iface.isUp = true) (held : ∃ queues, driven.iface.pool.queues = some queues)
    (created : driven.backend.attached = false) :
    (Driven.down MemoryLink.backend).Ensures (fun _ => Agreed) (fun _ => Agreed) driven := by
  obtain ⟨queues, held⟩ := held
  refine MemoryLink.down_closes up held fun lowered between down released attached _ => .resting ?_
  exact MemoryLink.released_resting queues down released (attached.trans created)

theorem step (agreed : Agreed driven) (move : Move) : Agreed (move.call driven).state := by
  cases agreed with
  | resting resting =>
    by_cases raise : move = .own .up
    · subst raise
      exact Move.own_ensures ((ensures_map _ _).mpr (up resting))
    · exact .resting (resting.step move raise)
  | inForce ready created inForce =>
    by_cases lower : move = .own .down
    · subst lower
      obtain ⟨queues, held, _⟩ := ready.queues
      exact Move.own_ensures ((ensures_map _ _).mpr (down ready.up ⟨queues, held⟩ created))
    · have after := ready.step move lower
      have attached : (move.call driven).state.backend.attached = driven.backend.attached :=
        congrArg Standing.attached after.stands
      refine .inForce (after.stands ▸ after) (attached.trans created) ?_
      rw [after.stands]
      exact inForce

end Agreed

/-- Whatever is done in whatever order to an interface and to a link that it alone creates: while the interface is
down the link is gone, and while it is up the link is there as the interface is set. -/
theorem created_link_agrees (name : String) (id : UInt32) (kind : Kind) (root : RootId) (capacity link : Nat)
    (moves : List Move) :
    let driven := Move.run moves ⟨Interface.new name id kind root capacity, { id := link }⟩
    (driven.iface.isUp = false → Gone driven)
      ∧ (driven.iface.isUp = true → driven.standing.InForce ∧ ∃ pending, Ready driven.standing pending driven) := by
  intro driven
  have start : Agreed ⟨Interface.new name id kind root capacity, { id := link }⟩ :=
    .resting ⟨⟨rfl, rfl, rfl, rfl⟩, rfl, rfl⟩
  have agreed : Agreed driven := Move.run_keeps (fun move _ before => before.step move) moves start
  cases agreed with
  | resting resting => exact ⟨fun _ => resting.toGone, fun up => absurd up (by simp [resting.down])⟩
  | inForce ready created inForce =>
    exact ⟨fun down => absurd ready.up (by simp [down]), fun _ => ⟨inForce, _, ready⟩⟩

end VirtualLink
