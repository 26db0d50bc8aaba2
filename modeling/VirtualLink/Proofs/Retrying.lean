import VirtualLink.Proofs.Returning
import VirtualLink.Proofs.Unwinding

namespace VirtualLink

open Call Driven

/-- The link is there without an address. -/
structure LinkState.Bare (state : LinkState) : Prop where
  there : state.exists? = true
  ipv4 : state.ipv4 = none
  netmask : state.netmask = none
  broadcast : state.broadcast = none
  ipv6 : state.ipv6 = []

namespace MemoryLink

variable {iface : Interface} {link other : MemoryLink}

/-- To open either link for this kind comes to the same, but for how often it was opened and what its log tells. -/
structure OpensLike (kind : Kind) (link other : MemoryLink) : Prop where
  attached : other.attached = link.attached
  state : (other.opened kind).state.timeless = (link.opened kind).state.timeless
  counters : (other.opened kind).counters = (link.opened kind).counters

theorem opened_counters (kind : Kind) :
    (link.opened kind).counters = if link.attached then link.counters else Vector.replicate 23 0 := by
  unfold opened reopened
  split <;> rfl

/-- A created link starts over, so that only what an attached one has matters. -/
theorem opensLike_of_attached {kind : Kind} (same : other.attached = link.attached)
    (settings : link.attached = true → link.state.SameSettings other.state ∧ other.counters = link.counters) :
    OpensLike kind link other := by
  cases attached : link.attached with
  | true =>
    have also : other.attached = true := same.trans attached
    obtain ⟨⟨existence, adminUp, mac, mtu, ipv4, netmask, broadcast, ipv6⟩, counters⟩ := settings attached
    refine ⟨same, ?_, ?_⟩
    · rw [opened_state_of_attached kind attached, opened_state_of_attached kind also]
      simp only [LinkState.timeless, existence, adminUp, mac, mtu, ipv4, netmask, broadcast, ipv6]
    · rw [opened_counters, opened_counters, if_pos attached, if_pos also, counters]
  | false =>
    have also : other.attached = false := same.trans attached
    refine ⟨same, ?_, ?_⟩
    · rw [opened_state_of_created kind attached, opened_state_of_created kind also]
      rfl
    · rw [opened_counters, opened_counters, attached, also]
      rfl

theorem OpensLike.planFor_eq (alike : OpensLike iface.kind link other) (scratch : Bytes) (queues : Option Queues) :
    planFor { iface with pool := { iface.pool with scratch, queues } } (other.opened iface.kind)
      = planFor iface (link.opened iface.kind) := by
  have mtu : (other.opened iface.kind).state.timeless.mtu = (link.opened iface.kind).state.timeless.mtu := by
    rw [alike.state]
  have mac : (other.opened iface.kind).state.timeless.mac = (link.opened iface.kind).state.timeless.mac := by
    rw [alike.state]
  have origin : (other.opened iface.kind).origin = (link.opened iface.kind).origin := by
    rw [opened_origin, opened_origin, MemoryLink.origin, alike.attached]
    rfl
  simp only [LinkState.timeless] at mtu mac
  simp only [planFor, mtu, mac, origin]
  rfl

theorem OpensLike.admits (alike : OpensLike iface.kind link other) (admits : link.Admits iface) (scratch : Bytes)
    (queues : Option Queues) : other.Admits { iface with pool := { iface.pool with scratch, queues } } := by
  have there : (other.opened iface.kind).state.timeless.exists? = (link.opened iface.kind).state.timeless.exists? := by
    rw [alike.state]
  refine ⟨admits.down, admits.valid, there.trans admits.there, ?_⟩
  have room := admits.room
  rw [← alike.planFor_eq scratch queues] at room
  exact room

/-- What a bring-up makes of links that open alike is the same, but for the queues. -/
theorem OpensLike.broughtUp_eq (alike : OpensLike iface.kind link other) (admits : link.Admits iface) (scratch : Bytes)
    (queues : Option Queues) :
    let emptied := { iface with pool := { iface.pool with scratch, queues } }
    (broughtUp emptied other).iface = (broughtUp iface link).iface.holding (some other.newQueues)
      ∧ (broughtUp emptied other).backend.state.timeless = (broughtUp iface link).backend.state.timeless
      ∧ (broughtUp emptied other).backend.counters = (broughtUp iface link).backend.counters := by
  intro emptied
  have plan := alike.planFor_eq scratch queues
  have origin : other.origin = link.origin := by
    rw [MemoryLink.origin, alike.attached]
    rfl
  refine ⟨?_, ?_, alike.counters⟩
  · change Interface.raised _ (planFor { iface with pool := { iface.pool with scratch, queues } } _) _ = _
    rw [origin]
    exact congrArg (fun plan : Plan =>
      ((iface.reserved plan.room).holding (some other.newQueues)).raised plan link.origin) plan
  · rw [broughtUp_timeless (alike.admits admits scratch queues), broughtUp_timeless admits]
    change (other.opened iface.kind).state.timeless.configured (planFor _ _) iface.settings = _
    rw [plan, alike.state]

/-- A failed bring-up of a link that has no address of its own comes to nothing. -/
theorem up_comesToNothing (down : iface.isUp = false) (bare : link.attached = true → link.state.Bare) :
    (Driven.up backend).Ensures (fun _ _ => True)
      (fun _ after => ∃ scratch queues, after.iface = { iface with pool := { iface.pool with scratch, queues } }
        ∧ OpensLike iface.kind link after.backend
        ∧ (iface.settings.check = .ok () → (planFor iface (link.opened iface.kind)).room ≤ iface.pool.capacity →
          after.backend.fault = none)) ⟨iface, link⟩ := by
  have there : (link.opened iface.kind).state.exists? = true :=
    opened_exists iface.kind fun attached => (bare attached).there
  have spared {after : MemoryLink} (left : LinkState.LeftBy iface.settings.ipv6 link.state after.state)
      (found : link.state.Bare) : link.state.SameSettings after.state := by
    refine left.spared.sameSettings_iff.mpr ⟨fun _ => ⟨found.ipv4, found.netmask, found.broadcast⟩, ?_⟩
    rw [found.ipv6]
    exact fun _ _ _ => List.not_mem_nil
  refine up_ensures there down ?invalid ?unopened ?exhausted ?stopped ?brought
  case invalid =>
    refine fun v broken => ⟨_, _, rfl, ⟨rfl, rfl, rfl⟩, fun valid => ?_⟩
    rw [valid] at broken
    cases broken
  case unopened =>
    refine fun _ => ⟨_, _, rfl, opensLike_of_attached rfl fun _ => ⟨?_, rfl⟩, fun _ _ => rfl⟩
    exact ⟨rfl, rfl, rfl, rfl, rfl, rfl, rfl, rfl⟩
  case exhausted =>
    refine fun short => ⟨_, _, rfl, opensLike_of_attached ?_ fun attached => ⟨?_, ?_⟩, fun _ room => ?_⟩
    · exact (released_gone _ link.newQueues).2.1.trans (opened_attached iface.kind)
    · exact spared (exhausted_leftBy _ attached) (bare attached)
    · rw [released_counters, opened_counters, if_pos attached]
    · exact absurd room (Nat.not_le.mpr short)
  case stopped =>
    intro before step after cut refused earlier
    have distinct : ∀ e ∈ before, e.request.op ≠ step.request.op := fun e member same =>
      earlier e member (refused.trans (congrArg some same.symm))
    refine ⟨_, _, rfl, opensLike_of_attached ?_ fun attached => ⟨?_, ?_⟩, fun _ _ => ?_⟩
    · exact (released_gone _ link.newQueues).2.1.trans (opened_attached iface.kind)
    · exact spared (stopped_leftBy _ attached cut distinct) (bare attached)
    · rw [released_counters]
      exact (opened_counters iface.kind).trans (if_pos attached)
    · exact (released_fault link.newQueues).elim (fun calm => calm) fun calm => calm
  case brought => exact fun _ _ _ _ => trivial

theorem opensLike_disarmed (kind : Kind) : OpensLike kind link link.disarmed :=
  opensLike_of_attached rfl fun _ => ⟨⟨rfl, rfl, rfl, rfl, rfl, rfl, rfl, rfl⟩, rfl⟩

/-- A bring-up after a failed one does what it would have done had nothing failed. -/
theorem up_after_failed_up (down : iface.isUp = false) (valid : iface.settings.check = .ok ())
    (bare : link.attached = true → link.state.Bare)
    (room : (iface.mtuOn link.origin link.state.mtu).toNat + frameOverhead ≤ iface.pool.capacity) {error : Error}
    (failed : (Driven.up backend ⟨iface, link⟩).result = .error error) :
    let retry := Driven.up backend (Driven.up backend ⟨iface, link⟩).state
    let single := Driven.up backend ⟨iface, link.disarmed⟩
    retry.result = .ok () ∧ single.result = .ok ()
      ∧ (∃ first second, single.state.iface.pool.queues = some first ∧ second.origin = first.origin
        ∧ retry.state.iface = single.state.iface.holding (some second))
      ∧ retry.state.backend.state.timeless = single.state.backend.state.timeless
      ∧ retry.state.backend.counters = single.state.backend.counters := by
  have mtu : (planFor iface (link.opened iface.kind)).mtu = iface.mtuOn link.origin link.state.mtu := by
    rw [planFor_mtu, Interface.mtuOn, MemoryLink.origin]
    cases link.attached <;> simp
  have fits : (planFor iface (link.opened iface.kind)).room ≤ iface.pool.capacity := by
    rw [Plan.room, mtu]
    exact room
  have admits : link.Admits iface :=
    ⟨down, valid, opened_exists iface.kind fun attached => (bare attached).there, fits⟩
  obtain ⟨scratch, queues, kept, alike, calm⟩ := (up_comesToNothing down bare).of_error failed
  have armless := calm valid fits
  generalize (Driven.up backend ⟨iface, link⟩).state = after at kept alike armless
  obtain ⟨left, other⟩ := after
  subst kept
  intro retry single
  have admitsOnce : link.disarmed.Admits iface :=
    (opensLike_disarmed iface.kind).admits admits iface.pool.scratch iface.pool.queues
  have admitsAgain := alike.admits admits scratch queues
  have once : single.state = broughtUp iface link.disarmed := up_state rfl admitsOnce
  have again : retry.state = broughtUp { iface with pool := { iface.pool with scratch, queues } } other :=
    up_state armless admitsAgain
  obtain ⟨onceIface, onceState, onceCounters⟩ :=
    (opensLike_disarmed iface.kind).broughtUp_eq admits iface.pool.scratch iface.pool.queues
  obtain ⟨againIface, againState, againCounters⟩ := alike.broughtUp_eq admits scratch queues
  have origin : other.newQueues.origin = link.disarmed.newQueues.origin := by
    change other.origin = link.origin
    rw [MemoryLink.origin, alike.attached]
    rfl
  refine ⟨(up_ok_iff armless).mpr admitsAgain, (up_ok_iff rfl).mpr admitsOnce, ?_, ?_, ?_⟩
  · refine ⟨link.disarmed.newQueues, other.newQueues, congrArg (·.iface.pool.queues) once, origin, ?_⟩
    rw [once, again]
    exact againIface.trans (congrArg (·.holding (some other.newQueues)) onceIface).symm
  · rw [once, again]
    exact againState.trans onceState.symm
  · rw [once, again]
    exact againCounters.trans onceCounters.symm

/-- The link refuses the last request of the first attempt. -/
theorem up_after_failed_up_visit :
    let iface := (visit 9000).iface
    let link := (visit 9000).backend.arm .setAdminUp
    let retry := Driven.up backend (Driven.up backend ⟨iface, link⟩).state
    (Driven.up backend ⟨iface, link⟩).result.isOk = false ∧ retry.result = .ok ()
      ∧ retry.state.backend.state.timeless
        = (Driven.up backend ⟨iface, link.disarmed⟩).state.backend.state.timeless := by
  intro iface link retry
  have refused : (Driven.up backend ⟨iface, link⟩).result.isOk = false := by decide +kernel
  have down : iface.isUp = false := rfl
  have valid : iface.settings.check = .ok () := rfl
  have bare : link.state.Bare := ⟨rfl, rfl, rfl, rfl, rfl⟩
  have room : (iface.mtuOn link.origin link.state.mtu).toNat + frameOverhead ≤ iface.pool.capacity := by decide
  clear_value iface link
  cases failed : (Driven.up backend ⟨iface, link⟩).result with
  | ok => simp [failed, Except.isOk, Except.toBool] at refused
  | error error =>
    obtain ⟨granted, -, -, state, -⟩ := up_after_failed_up down valid (fun _ => bare) room failed
    exact ⟨rfl, granted, state⟩

end MemoryLink

end VirtualLink
