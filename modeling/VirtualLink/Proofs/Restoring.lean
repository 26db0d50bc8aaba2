import VirtualLink.Proofs.MemoryLink.BringUp

namespace VirtualLink

namespace LinkState

/-- All that can be seen of a link, but for its kind, how often it was opened and what its log tells. -/
structure SameSettings (found after : LinkState) : Prop where
  existence : after.exists? = found.exists?
  adminUp : after.adminUp = found.adminUp
  mac : after.mac = found.mac
  mtu : after.mtu = found.mtu
  ipv4 : after.ipv4 = found.ipv4
  netmask : after.netmask = found.netmask
  broadcast : after.broadcast = found.broadcast
  ipv6 : after.ipv6 = found.ipv6

/-- What a failed bring-up leaves of a link that it found: no IPv4 address if one was set meanwhile, and none of
the interface's IPv6 addresses if they were added. -/
structure Spared (addrs : List Ipv6) (set added : Bool) (found after : LinkState) : Prop where
  existence : after.exists? = found.exists?
  adminUp : after.adminUp = found.adminUp
  mac : after.mac = found.mac
  mtu : after.mtu = found.mtu
  ipv4 : after.ipv4 = if set then none else found.ipv4
  netmask : after.netmask = if set then none else found.netmask
  broadcast : after.broadcast = if set then none else found.broadcast
  ipv6 : after.ipv6 =
    if added then found.ipv6.filter fun entry => ¬ (entry.2 = ipv6PrefixLength ∧ entry.1 ∈ addrs) else found.ipv6

variable {addrs : List Ipv6} {set added : Bool} {found after : LinkState}

/-- What a link was opened for, how often, and what its log tells are not settings. -/
theorem sameSettings_with (state : LinkState) (kind : Option Kind) (opens : Nat) (log : List Op) :
    state.SameSettings { state with kind, opens, log } :=
  ⟨rfl, rfl, rfl, rfl, rfl, rfl, rfl, rfl⟩

theorem Spared.congr {found' after' : LinkState} (spared : Spared addrs set added found after)
    (before : found'.SameSettings found) (later : after.SameSettings after') :
    Spared addrs set added found' after' where
  existence := by rw [later.existence, spared.existence, before.existence]
  adminUp := by rw [later.adminUp, spared.adminUp, before.adminUp]
  mac := by rw [later.mac, spared.mac, before.mac]
  mtu := by rw [later.mtu, spared.mtu, before.mtu]
  ipv4 := by rw [later.ipv4, spared.ipv4, before.ipv4]
  netmask := by rw [later.netmask, spared.netmask, before.netmask]
  broadcast := by rw [later.broadcast, spared.broadcast, before.broadcast]
  ipv6 := by rw [later.ipv6, spared.ipv6, before.ipv6]

/-- The link is as it was found if nothing was there that got lost. -/
theorem Spared.sameSettings_iff (spared : Spared addrs set added found after) :
    found.SameSettings after
      ↔ (set → found.ipv4 = none ∧ found.netmask = none ∧ found.broadcast = none)
        ∧ (added → ∀ addr ∈ addrs, (addr, ipv6PrefixLength) ∉ found.ipv6) := by
  obtain ⟨existence, adminUp, mac, mtu, ipv4, netmask, broadcast, ipv6⟩ := spared
  constructor
  · intro same
    refine ⟨?_, ?_⟩
    · rintro rfl
      exact ⟨same.ipv4.symm.trans ipv4, same.netmask.symm.trans netmask, same.broadcast.symm.trans broadcast⟩
    · rintro rfl addr given known
      have kept := List.filter_eq_self.mp (ipv6.symm.trans same.ipv6) _ known
      simp [given] at kept
  · rintro ⟨noIpv4, noIpv6⟩
    refine ⟨existence, adminUp, mac, mtu, ?_, ?_, ?_, ?_⟩
    · cases set
      · exact ipv4
      · exact ipv4.trans (noIpv4 rfl).1.symm
    · cases set
      · exact netmask
      · exact netmask.trans (noIpv4 rfl).2.1.symm
    · cases set
      · exact broadcast
      · exact broadcast.trans (noIpv4 rfl).2.2.symm
    · cases added
      · exact ipv6
      · refine ipv6.trans (List.filter_eq_self.mpr ?_)
        rintro ⟨addr, prefixLength⟩ known
        simp only [decide_eq_true_eq]
        rintro ⟨rfl, given⟩
        exact noIpv6 rfl addr given known

theorem spared_of_undone {undo changes : List Request} (takeBack : ∀ u ∈ undo, u.TakesBack found)
    (covered : ∀ change ∈ changes, ∃ u ∈ undo, u.Undoes change) (ipv4 : .clearIpv4 ∈ undo ↔ set)
    (ipv6 : ∀ entry : Ipv6 × UInt8,
      .delIpv6 entry.1 entry.2 ∈ undo ↔ added ∧ entry.2 = ipv6PrefixLength ∧ entry.1 ∈ addrs) :
    Spared addrs set added found ((found.grantAll changes).grantAll undo) := by
  rw [grantAll_grantAll_undone takeBack covered, applyAll_takesBack takeBack]
  constructor
  case ipv6 =>
    cases added with
    | false => exact List.filter_eq_self.mpr fun entry _ => by simp [ipv6 entry]
    | true => exact List.filter_congr fun entry _ => by simp [ipv6 entry]
  all_goals simp only [ipv4]

/-- How a failed bring-up leaves a link that it found, by what it got the link to tell its log. -/
def LeftBy (addrs : List Ipv6) (found after : LinkState) : Prop :=
  ∃ told : List Op, after.log = found.log ++ told
    ∧ Spared addrs (decide (.setIpv4 ∈ told)) (decide (.addIpv6 ∈ told)) found after

theorem LeftBy.refl (found : LinkState) : LeftBy addrs found found :=
  ⟨[], (List.append_nil _).symm, ⟨rfl, rfl, rfl, rfl, rfl, rfl, rfl, rfl⟩⟩

/-- What the log tells that it did not tell before. -/
def toldSince (found after : LinkState) : List Op :=
  after.log.drop found.log.length

theorem LeftBy.spared (left : LeftBy addrs found after) :
    Spared addrs (decide (.setIpv4 ∈ found.toldSince after)) (decide (.addIpv6 ∈ found.toldSince after))
      found after := by
  obtain ⟨told, log, spared⟩ := left
  have since : found.toldSince after = told := by simp [toldSince, log]
  rwa [since]

end LinkState

namespace MemoryLink

open LinkState

variable {iface : Interface} {link : MemoryLink}

theorem opened_state_of_attached (kind : Kind) (attached : link.attached = true) :
    (link.opened kind).state =
      { link.state with
        kind := some kind
        opens := link.state.opens + 1
        log := link.state.log ++ [.acquire] } := by
  simp [opened, reopened, attached, connect, record]

/-- A link that was found, once requests are granted and taken back, and the queues closed. -/
theorem released_leftBy {kind : Kind} {after : MemoryLink} {changes undo : List Request} {addrs : List Ipv6}
    (queues : Queues) (attached : link.attached = true) (stays : after.attached = link.attached)
    (asked : after.state = ((link.opened kind).state.grantAll changes).grantAll undo)
    (takeBack : ∀ u ∈ undo, u.TakesBack (link.opened kind).state)
    (covered : ∀ change ∈ changes, ∃ u ∈ undo, u.Undoes change)
    (ipv4 : .clearIpv4 ∈ undo ↔ .setIpv4 ∈ changes.map Request.op)
    (ipv6 : ∀ entry : Ipv6 × UInt8, .delIpv6 entry.1 entry.2 ∈ undo
      ↔ .addIpv6 ∈ changes.map Request.op ∧ entry.2 = ipv6PrefixLength ∧ entry.1 ∈ addrs) :
    LeftBy addrs link.state (after.released queues).state := by
  obtain ⟨last, lastTold, released⟩ := released_state_of_attached queues (stays.trans attached)
  have opened := opened_state_of_attached kind attached
  -- The opening, the undoing and the closing are told as well, but none of them sets or adds an address.
  have told (op : Op) (noUndo : ∀ u ∈ undo, u.op ≠ op) (fresh : op ≠ .acquire) (unreleased : op ≠ .release) :
      op ∈ .acquire :: (changes ++ undo).map Request.op ++ last ↔ op ∈ changes.map Request.op := by
    have notUndone : op ∉ undo.map Request.op := by
      intro member
      obtain ⟨u, among, same⟩ := List.mem_map.mp member
      exact noUndo u among same
    have notLast : op ∉ last := fun member => unreleased (List.mem_singleton.mp (lastTold member))
    simp only [List.map_append, List.cons_append, List.mem_cons, List.mem_append, fresh, notUndone, notLast,
      false_or, or_false]
  refine ⟨.acquire :: (changes ++ undo).map Request.op ++ last, ?_, ?_⟩
  · rw [released, asked, ← grantAll_append, grantAll_eq, opened]
    simp
  · refine (spared_of_undone takeBack covered ?_ ?_).congr ?_ ?_
    · rw [decide_eq_true_eq, told _ (fun u member => (takeBack u member).op_ne.1) (by simp) (by simp)]
      exact ipv4
    · intro entry
      rw [decide_eq_true_eq, told _ (fun u member => (takeBack u member).op_ne.2) (by simp) (by simp)]
      exact ipv6 entry
    · rw [opened]
      exact sameSettings_with ..
    · rw [released, asked]
      exact sameSettings_with ..

theorem stopped_leftBy {before after : List Step} {step : Step} (queues : Queues) (attached : link.attached = true)
    (cut : (planFor iface (link.opened iface.kind)).steps iface.name iface.settings = before ++ step :: after)
    (earlier : ∀ e ∈ before, e.request.op ≠ step.request.op) :
    LeftBy iface.settings.ipv6 link.state
      ((((link.opened iface.kind).granted (before.map Step.request)).disarmed.granted
        (before.filterMap Step.undo).reverse).released queues).state := by
  have made := Plan.subset_configuring cut
  have takeBack : ∀ u ∈ (before.filterMap Step.undo).reverse, u.TakesBack (link.opened iface.kind).state := by
    intro u member
    obtain ⟨s, among, own⟩ := List.mem_filterMap.mp (List.mem_reverse.mp member)
    have asks := own ▸ Plan.asks_of_mem (made.subset among)
    refine asks.takesBack rfl fun previous read => ?_
    simp only [planFor] at read
    split at read
    · exact (Option.some.inj read).symm
    · cases read
  refine released_leftBy queues attached (opened_attached iface.kind) rfl takeBack (Plan.undone_of_prefix made) ?_ ?_
  · rw [List.mem_reverse, List.map_map]
    exact Plan.clearIpv4_mem_iff made.subset
  · intro entry
    rw [List.mem_reverse, List.map_map]
    exact Plan.delIpv6_mem_iff cut earlier

theorem exhausted_leftBy (queues : Queues) (attached : link.attached = true) :
    LeftBy iface.settings.ipv6 link.state ((link.opened iface.kind).released queues).state := by
  have asked : (link.opened iface.kind).state = ((link.opened iface.kind).state.grantAll []).grantAll [] := rfl
  exact released_leftBy queues attached (opened_attached iface.kind) asked (by simp) (by simp) (by simp) (by simp)

/-- A bring-up on a link that is there leaves it as it found it, but for addresses, or gives it the settings. -/
theorem up_ensures_of_attached (there : link.state.exists? = true) (attached : link.attached = true)
    (down : iface.isUp = false) {done : Unit → Driven MemoryLink → Prop} {failed : Error → Driven MemoryLink → Prop}
    (left : ∀ error scratch queues after, after.attached = true → LeftBy iface.settings.ipv6 link.state after.state →
      failed error ⟨{ iface with pool := { iface.pool with scratch, queues } }, after⟩)
    (brought : iface.settings.check = .ok () →
      let plan := planFor iface (link.opened iface.kind)
      done () ⟨((iface.reserved plan.room).holding (some link.newQueues)).raised plan link.origin,
        (link.opened iface.kind).granted ((plan.steps iface.name iface.settings).map Step.request)⟩) :
    (Driven.up backend).Ensures done failed ⟨iface, link⟩ := by
  have opens : (link.opened iface.kind).state.exists? = true := by
    rw [opened_state_of_attached iface.kind attached]
    exact there
  have closed (after : MemoryLink) (same : after.attached = (link.opened iface.kind).attached) :
      (after.released link.newQueues).attached = true :=
    (after.released_gone link.newQueues).2.1.trans (same.trans ((opened_attached iface.kind).trans attached))
  refine up_ensures opens down ?invalid ?unopened ?exhausted ?stopped ?brought
  case invalid => exact fun v _ => left (.violation v) iface.pool.scratch iface.pool.queues link attached (.refl _)
  case unopened => exact fun _ => left _ iface.pool.scratch iface.pool.queues link.disarmed attached (.refl _)
  case exhausted => exact fun _ => left _ iface.pool.scratch none _ (closed _ rfl) (exhausted_leftBy _ attached)
  case stopped =>
    intro before step after cut refused earlier
    have distinct : ∀ e ∈ before, e.request.op ≠ step.request.op := fun e member same =>
      earlier e member (refused.trans (congrArg some same.symm))
    exact left _ _ none _ (closed _ rfl) (stopped_leftBy _ attached cut distinct)
  case brought => exact fun valid _ _ _ => brought valid

theorem up_leftBy (there : link.state.exists? = true) (attached : link.attached = true)
    (down : iface.isUp = false) :
    (Driven.up backend).Ensures (fun _ _ => True)
      (fun _ after => LeftBy iface.settings.ipv6 link.state after.backend.state) ⟨iface, link⟩ :=
  up_ensures_of_attached there attached down (fun _ _ _ _ _ left => left) fun _ => trivial

/-- A failed bring-up gives a link that it found its flags, its MAC address and its MTU back. Its addresses it
gives back unless it got as far as to set one of its own in their place. -/
theorem failed_up_restores_iff (there : link.state.exists? = true) (attached : link.attached = true)
    (down : iface.isUp = false) {error : Error}
    (failed : (Driven.up backend ⟨iface, link⟩).result = .error error) :
    let after := (Driven.up backend ⟨iface, link⟩).state.backend.state
    (after.exists? = link.state.exists? ∧ after.adminUp = link.state.adminUp ∧ after.mac = link.state.mac
        ∧ after.mtu = link.state.mtu)
      ∧ (link.state.SameSettings after
        ↔ (.setIpv4 ∈ link.state.toldSince after →
            link.state.ipv4 = none ∧ link.state.netmask = none ∧ link.state.broadcast = none)
          ∧ (.addIpv6 ∈ link.state.toldSince after →
            ∀ addr ∈ iface.settings.ipv6, (addr, ipv6PrefixLength) ∉ link.state.ipv6)) := by
  intro after
  have spared := ((up_leftBy there attached down).of_error failed).spared
  have same := spared.sameSettings_iff
  simp only [decide_eq_true_eq] at same
  exact ⟨⟨spared.existence, spared.adminUp, spared.mac, spared.mtu⟩, same⟩

/-- An interface with these settings that finds a link with an address, and with the order not to go up. -/
def encounter (settings : Settings) : Driven MemoryLink where
  iface := { name := "tap0", id := 0, kind := .tap, settings, pool := { root := 0, capacity := defaultCapacity } }
  backend :=
    { state := { exists? := true, mtu := 9000, ipv4 := some ⟨10, 0, 0, 1⟩ }
      attached := true
      fault := some .setAdminUp }

/-- An address that only the link has outlives the failure. -/
theorem failed_up_restores_iff_encounter :
    ∃ error, (Driven.up backend (encounter { ipv6 := [⟨#v[1, 2, 3, 4, 5, 6, 7, 8]⟩] })).result = .error error
      ∧ LinkState.SameSettings { exists? := true, mtu := 9000, ipv4 := some ⟨10, 0, 0, 1⟩ }
        (Driven.up backend (encounter { ipv6 := [⟨#v[1, 2, 3, 4, 5, 6, 7, 8]⟩] })).state.backend.state := by
  have refused :
      (Driven.up backend (encounter { ipv6 := [⟨#v[1, 2, 3, 4, 5, 6, 7, 8]⟩] })).result.isOk = false := by
    decide
  generalize given : encounter _ = start at refused ⊢
  cases failed : (Driven.up backend start).result with
  | ok => simp [failed, Except.isOk, Except.toBool] at refused
  | error error =>
    subst given
    have restores := failed_up_restores_iff (by decide) (by decide) (by decide) failed
    exact ⟨error, rfl, restores.2.mpr ⟨by decide, by decide⟩⟩

/-- If the interface has one as well, the link loses its own. -/
theorem failed_up_forgets_address :
    (Driven.up backend (encounter { ipv4 := some ⟨10, 0, 0, 2⟩ })).result.isOk = false
      ∧ (encounter { ipv4 := some ⟨10, 0, 0, 2⟩ }).backend.state.ipv4 = some ⟨10, 0, 0, 1⟩
      ∧ (Driven.up backend (encounter { ipv4 := some ⟨10, 0, 0, 2⟩ })).state.backend.state.ipv4 = none := by
  decide

end MemoryLink

end VirtualLink
