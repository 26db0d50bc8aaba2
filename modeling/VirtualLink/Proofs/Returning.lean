import VirtualLink.Proofs.Created
import VirtualLink.Proofs.MemoryLink.TearDown
import VirtualLink.Proofs.Restoring

namespace VirtualLink

open Call Driven

theorem Mac.check_generate (id : UInt32) (name : String) : checkMac (generate id name) = .ok () := by
  have first : (generate id name).octets[0] = 2 := rfl
  have single : (generate id name).isMulticast = false := by
    rw [isMulticast, first]
    decide
  have given : (generate id name).isZero = false := by
    refine beq_eq_false_iff_ne.mpr fun zero => ?_
    rw [zero] at first
    exact absurd first (by decide)
  simp [checkMac, single, given]

namespace Interface

variable {iface : Interface}

theorem check_chosenMac (valid : iface.settings.check = .ok ()) : checkMac (chosenMac iface) = .ok () := by
  have checked := (Settings.check_eq_ok_iff.mp valid).1
  unfold chosenMac
  cases given : iface.settings.mac with
  | none => exact Mac.check_generate iface.id iface.name
  | some mac =>
    rw [given] at checked
    exact checked

/-- Settings that a bring-up has committed pass their check again if the MTU does. -/
theorem check_committed_iff (valid : iface.settings.check = .ok ()) (mtu : UInt32) :
    { iface.settings with mac := some (chosenMac iface), mtu }.check = .ok () ↔ minMtu ≤ mtu ∧ mtu ≤ maxMtu := by
  obtain ⟨_, netmask, ipv4Netmask, ipv4Broadcast, ipv6, _⟩ := Settings.check_eq_ok_iff.mp valid
  have mac : (some (chosenMac iface)).forM checkMac = .ok () := check_chosenMac valid
  simp only [Settings.check_eq_ok_iff, mac, netmask, ipv4Netmask, ipv4Broadcast, ipv6, true_and]

end Interface

namespace LinkState

variable {found : LinkState} {plan : Plan} {settings : Settings}

/-- The state but for how often the link was opened and what the log tells. -/
def timeless (state : LinkState) : LinkState :=
  { state with opens := 0, log := [] }

theorem timeless_with_log (state : LinkState) (log : List Op) : { state with log }.timeless = state.timeless :=
  rfl

theorem grantAll_timeless (state : LinkState) (changes : List Request) :
    (state.grantAll changes).timeless = state.timeless.applyAll changes := by
  induction changes generalizing state with
  | nil => rfl
  | cons change rest ih =>
    have first : (state.grant change).timeless = state.timeless.apply change := by cases change <;> rfl
    change ((state.grant change).grantAll rest).timeless = (state.timeless.apply change).applyAll rest
    rw [ih, first]

/-- What is left of a link that was found once settings were committed to it and taken off again. -/
def stripped (found : LinkState) (settings : Settings) : LinkState :=
  { found with
    adminUp := false
    ipv6 := found.ipv6.filter (· ∉ settings.ipv6.map (·, ipv6PrefixLength))
    ipv4 := if settings.ipv4.isSome then none else found.ipv4
    netmask := if settings.ipv4.isSome then none else found.netmask
    broadcast := if settings.ipv4.isSome then none else found.broadcast }

theorem configured_stripped (companions : settings.ipv4 = none → settings.netmask = none ∧ settings.broadcast = none)
    (mtu : plan.previousMtu = found.mtu) (mac : ∀ previous ∈ plan.previousMac, previous = found.mac) :
    (found.configured plan settings).applyAll
        (settings.retractions ++ Restore.requests ⟨plan.previousMac, plan.previousMtu⟩) =
      found.stripped settings := by
  have own : (settings.ipv6.map (·, ipv6PrefixLength)).filter (· ∉ settings.ipv6.map (·, ipv6PrefixLength)) = [] :=
    List.filter_eq_nil_iff.mpr fun entry member => by simpa using member
  rw [applyAll_append, applyAll_retractions, applyAll_restore]
  simp only [configured, stripped, List.filter_append, own, List.append_nil, mtu]
  have address : plan.previousMac.getD (if plan.previousMac.isSome then plan.mac else found.mac) = found.mac := by
    cases read : plan.previousMac with
    | none => rfl
    | some previous => exact mac previous read
  rw [address]
  cases given : settings.ipv4 with
  | none =>
    obtain ⟨netmask, broadcast⟩ := companions given
    simp [netmask, broadcast]
  | some addr => simp

/-- What a link was found with is apart from what these settings give it and take from it. -/
structure Apart (found : LinkState) (settings : Settings) : Prop where
  netmask : settings.ipv4.isSome → settings.netmask = none → found.netmask = none
  broadcast : settings.ipv4.isSome → settings.broadcast = none → found.broadcast = none
  ipv6 : ∀ addr ∈ settings.ipv6, (addr, ipv6PrefixLength) ∉ found.ipv6

/-- Besides, an interface that keeps the size of the link may also commit it. -/
structure Repeatable (found : LinkState) (iface : Interface) : Prop extends Apart found iface.settings where
  mtu : iface.mtuChosen = false → minMtu ≤ found.mtu ∧ found.mtu ≤ maxMtu

theorem or_stripped_iff (own : Option Ipv4) {given : Option Ipv4} {taken : Bool}
    (without : taken = false → given = none) :
    given.or (if taken then none else own) = given.or own ↔ (taken → given = none → own = none) := by
  cases taken with
  | false => simp
  | true =>
    cases given with
    | none => simpa using eq_comm
    | some addr => simp

theorem filter_append_eq_iff (own given : List (Ipv6 × UInt8)) :
    own.filter (· ∉ given) ++ given = own ++ given ↔ ∀ entry ∈ given, entry ∉ own := by
  rw [List.append_left_inj, List.filter_eq_self]
  simp only [decide_eq_true_eq]
  exact ⟨fun apart entry member among => apart entry among member,
    fun apart entry among member => apart entry member among⟩

/-- The same settings make the same of a link that had them before, unless they took something from it. -/
theorem stripped_configured_iff
    (companions : settings.ipv4 = none → settings.netmask = none ∧ settings.broadcast = none) :
    (found.stripped settings).configured plan settings = found.configured plan settings ↔ found.Apart settings := by
  have without (absent : settings.ipv4.isSome = false) : settings.netmask = none ∧ settings.broadcast = none :=
    companions (Option.not_isSome_iff_eq_none.mp (by simp [absent]))
  have address :
      settings.ipv4.or (if settings.ipv4.isSome then none else found.ipv4) = settings.ipv4.or found.ipv4 := by
    cases settings.ipv4 <;> rfl
  have netmask := or_stripped_iff found.netmask fun absent => (without absent).1
  have broadcast := or_stripped_iff found.broadcast fun absent => (without absent).2
  have ipv6 := filter_append_eq_iff found.ipv6 (settings.ipv6.map (·, ipv6PrefixLength))
  simp only [List.forall_mem_map] at ipv6
  have fields : found.Apart settings ↔ _ ∧ _ ∧ _ :=
    ⟨fun apart => ⟨apart.netmask, apart.broadcast, apart.ipv6⟩,
      fun ⟨netmask, broadcast, ipv6⟩ => ⟨netmask, broadcast, ipv6⟩⟩
  rw [fields, ← netmask, ← broadcast, ← ipv6]
  simp only [configured, stripped, LinkState.mk.injEq, address, and_true, true_and]

end LinkState

/-- What can be asked of the interface, and what can be seen of the link but for how often it was opened and what its
log tells, are the same again. -/
structure Driven.Again (first second : Driven MemoryLink) : Prop where
  iface : ∃ counters queues, queues.isSome = first.iface.pool.queues.isSome
    ∧ second.iface = { first.iface with counters, pool := { first.iface.pool with queues } }
  state : second.backend.state.timeless = first.backend.state.timeless

namespace MemoryLink

variable {iface : Interface} {link : MemoryLink}

/-- What a bring-up needs of a link that refuses nothing. -/
structure Admits (link : MemoryLink) (iface : Interface) : Prop where
  down : iface.isUp = false
  valid : iface.settings.check = .ok ()
  there : (link.opened iface.kind).state.exists? = true
  room : (planFor iface (link.opened iface.kind)).room ≤ iface.pool.capacity

/-- What a bring-up makes of an interface and a link that refuses nothing. -/
def broughtUp (iface : Interface) (link : MemoryLink) : Driven MemoryLink :=
  let plan := planFor iface (link.opened iface.kind)
  ⟨((iface.reserved plan.room).holding (some link.newQueues)).raised plan link.origin,
    (link.opened iface.kind).granted ((plan.steps iface.name iface.settings).map Step.request)⟩

/-- A link that refuses nothing after a bring-up and a tear-down. -/
def handedBack (iface : Interface) (link : MemoryLink) : MemoryLink :=
  ((broughtUp iface link).backend.granted (broughtUp iface link).iface.tearDown).released link.newQueues

theorem up_admitted (armless : link.fault = none) :
    (Driven.up backend).Ensures (fun _ after => link.Admits iface ∧ after = broughtUp iface link)
      (fun _ _ => ¬ link.Admits iface) ⟨iface, link⟩ := by
  have refuses (op : Op) : link.fault ≠ some op := by simp [armless]
  cases down : iface.isUp with
  | true => exact up_refused down fun admits => by simp [admits.down] at down
  | false =>
    cases there : (link.opened iface.kind).state.exists? with
    | false =>
      refine (up_absent there down).mono (fun _ _ never => never.elim) fun _ _ _ admits => ?_
      simp [admits.there] at there
    | true =>
      refine up_ensures there down ?invalid ?unopened ?exhausted ?stopped ?brought
      case invalid => exact fun v broken admits => by simp [admits.valid] at broken
      case unopened => exact fun refused => absurd refused (refuses _)
      case exhausted => exact fun short admits => absurd admits.room (Nat.not_le.mpr short)
      case stopped => exact fun _ _ _ _ refused _ => absurd refused (refuses _)
      case brought => exact fun valid _ room _ => ⟨⟨down, valid, there, room⟩, rfl⟩

theorem up_ok_iff (armless : link.fault = none) :
    (Driven.up backend ⟨iface, link⟩).result = .ok () ↔ link.Admits iface := by
  cases answer : (Driven.up backend ⟨iface, link⟩).result with
  | ok => exact iff_of_true rfl ((up_admitted armless).of_ok answer).1
  | error error => exact iff_of_false nofun ((up_admitted armless).of_error answer)

theorem up_state (armless : link.fault = none) (admits : link.Admits iface) :
    (Driven.up backend ⟨iface, link⟩).state = broughtUp iface link :=
  ((up_admitted armless).of_ok ((up_ok_iff armless).mpr admits)).2

theorem down_broughtUp (armless : link.fault = none) (admits : link.Admits iface) :
    (Driven.down backend).Ensures
      (fun _ after => ∃ counters, after = ⟨(broughtUp iface link).iface.lowered counters, handedBack iface link⟩)
      (fun _ _ => False) (broughtUp iface link) := by
  have there : (broughtUp iface link).backend.state.exists? = true := (granted_exists _).trans admits.there
  have refuses : (broughtUp iface link).backend.fault = none := (opened_fault iface.kind).trans armless
  have up : (broughtUp iface link).iface.isUp = true := rfl
  have held : (broughtUp iface link).iface.pool.queues = some link.newQueues := rfl
  exact down_ensures up held there (fun counters => ⟨counters, rfl⟩) fun _ _ armed _ => absurd refuses armed

theorem handedBack_fault (armless : link.fault = none) : (handedBack iface link).fault = none := by
  have refuses : (broughtUp iface link).backend.fault = none := (opened_fault iface.kind).trans armless
  exact (released_fault link.newQueues).elim (·.trans refuses) fun gone => gone

theorem handedBack_attached : (handedBack iface link).attached = link.attached :=
  (released_gone _ link.newQueues).2.1.trans (opened_attached iface.kind)

theorem broughtUp_timeless (admits : link.Admits iface) :
    (broughtUp iface link).backend.state.timeless =
      (link.opened iface.kind).state.timeless.configured (planFor iface (link.opened iface.kind)) iface.settings :=
  (LinkState.grantAll_timeless _ _).trans
    (LinkState.applyAll_steps_eq_configured _ _ _ (Settings.companions_of_check admits.valid))

theorem tearDown_of_attached (attached : link.attached = true) :
    let plan := planFor iface (link.opened iface.kind)
    (broughtUp iface link).iface.tearDown =
      iface.settings.retractions ++ Restore.requests ⟨plan.previousMac, plan.previousMtu⟩ := by
  intro plan
  have restore : (broughtUp iface link).iface.restore = some ⟨plan.previousMac, plan.previousMtu⟩ :=
    if_pos (if_pos attached)
  unfold Interface.tearDown
  rw [restore]
  rfl

theorem handedBack_timeless (attached : link.attached = true) (admits : link.Admits iface) :
    (handedBack iface link).state.timeless =
      (link.opened iface.kind).state.timeless.stripped iface.settings := by
  have stays : ((broughtUp iface link).backend.granted (broughtUp iface link).iface.tearDown).attached = true :=
    (opened_attached iface.kind).trans attached
  obtain ⟨told, _, released⟩ := released_state_of_attached link.newQueues stays
  have mac : ∀ previous ∈ (planFor iface (link.opened iface.kind)).previousMac,
      previous = (link.opened iface.kind).state.timeless.mac := by
    intro previous read
    simp only [planFor, Option.mem_def] at read
    split at read
    · exact (Option.some.inj read).symm
    · cases read
  calc (handedBack iface link).state.timeless
    _ = ((broughtUp iface link).backend.granted (broughtUp iface link).iface.tearDown).state.timeless := by
      unfold handedBack
      rw [released]
      exact LinkState.timeless_with_log _ _
    _ = (broughtUp iface link).backend.state.timeless.applyAll (broughtUp iface link).iface.tearDown :=
      LinkState.grantAll_timeless (broughtUp iface link).backend.state (broughtUp iface link).iface.tearDown
    _ = (link.opened iface.kind).state.timeless.stripped iface.settings := by
      rw [broughtUp_timeless admits, tearDown_of_attached attached]
      exact LinkState.configured_stripped (Settings.companions_of_check admits.valid) rfl mac

/-- A link that was created starts over, and one that was found is what the tear-down left of it. -/
theorem handedBack_opened (admits : link.Admits iface) :
    ((handedBack iface link).opened iface.kind).state.timeless =
      if link.attached then (link.opened iface.kind).state.timeless.stripped iface.settings
      else (link.opened iface.kind).state.timeless := by
  have kept : (handedBack iface link).attached = link.attached := handedBack_attached
  split
  · rename_i attached
    have left := handedBack_timeless attached admits
    have raised (kind : Option Kind) : { (handedBack iface link).state.timeless with kind } =
        { (link.opened iface.kind).state.timeless.stripped iface.settings with kind } := by rw [left]
    rw [opened_state_of_attached iface.kind (kept.trans attached)]
    refine (raised (some iface.kind)).trans ?_
    rw [opened_state_of_attached iface.kind attached]
    rfl
  · rename_i created
    have created : link.attached = false := Bool.eq_false_iff.mpr created
    rw [opened_state_of_created iface.kind created, opened_state_of_created iface.kind (kept.trans created)]
    rfl

theorem planFor_mtu :
    (planFor iface (link.opened iface.kind)).mtu =
      if link.attached = true ∧ iface.mtuChosen = false then link.state.mtu else iface.settings.mtu := by
  unfold planFor
  rw [opened_origin]
  cases attached : link.attached with
  | false => simp [MemoryLink.origin, attached]
  | true => simp [MemoryLink.origin, attached, opened_state_of_attached iface.kind attached]

section

variable (counters : Counters)

theorem planFor_again (admits : link.Admits iface) :
    planFor ((broughtUp iface link).iface.lowered counters) ((handedBack iface link).opened iface.kind) =
      planFor iface (link.opened iface.kind) := by
  have seen := handedBack_opened admits
  have mtu : ((handedBack iface link).opened iface.kind).state.mtu = (link.opened iface.kind).state.mtu :=
    (congrArg LinkState.mtu seen).trans (by split <;> rfl)
  have mac : ((handedBack iface link).opened iface.kind).state.mac = (link.opened iface.kind).state.mac :=
    (congrArg LinkState.mac seen).trans (by split <;> rfl)
  have origin : ((handedBack iface link).opened iface.kind).origin = (link.opened iface.kind).origin := by
    have kept : (handedBack iface link).attached = link.attached := handedBack_attached
    rw [opened_origin, opened_origin, MemoryLink.origin, kept]
    rfl
  -- A plan that kept the size of the link keeps it again, and any other kept what is now in the settings.
  have settled :
      (planFor ((broughtUp iface link).iface.lowered counters) ((handedBack iface link).opened iface.kind)).mtu =
        (planFor iface (link.opened iface.kind)).mtu := by
    by_cases adopts : (link.opened iface.kind).origin = .attached ∧ ¬ iface.mtuChosen
    · have adopted : (planFor iface (link.opened iface.kind)).mtu = (link.opened iface.kind).state.mtu :=
        if_pos adopts
      rw [adopted, ← mtu]
      exact if_pos ⟨origin.trans adopts.1, adopts.2⟩
    · exact if_neg fun keeps => adopts ⟨origin.symm.trans keeps.1, keeps.2⟩
  simp only [planFor] at settled ⊢
  rw [settled, mtu, mac]
  rfl

theorem admits_again_iff (admits : link.Admits iface) :
    (handedBack iface link).Admits ((broughtUp iface link).iface.lowered counters) ↔
      (link.attached = true → iface.mtuChosen = false → minMtu ≤ link.state.mtu ∧ link.state.mtu ≤ maxMtu) := by
  have committed := iface.check_committed_iff admits.valid (planFor iface (link.opened iface.kind)).mtu
  constructor
  · intro again attached free
    have found : (planFor iface (link.opened iface.kind)).mtu = link.state.mtu :=
      planFor_mtu.trans (if_pos ⟨attached, free⟩)
    rw [← found]
    exact committed.mp again.valid
  · intro permitted
    constructor
    case down => rfl
    case valid =>
      refine committed.mpr ?_
      rw [planFor_mtu]
      split
      · rename_i adopted
        exact permitted adopted.1 adopted.2
      · exact (Settings.check_eq_ok_iff.mp admits.valid).2.2.2.2.2
    case there =>
      have present := congrArg LinkState.exists? (handedBack_opened admits)
      have stays : ((handedBack iface link).opened iface.kind).state.exists? =
          (link.opened iface.kind).state.exists? := present.trans (by split <;> rfl)
      exact stays.trans admits.there
    case room =>
      have room := admits.room
      rw [← planFor_again counters admits] at room
      exact room

/-- What a bring-up makes of them again. -/
def broughtUpAgain (iface : Interface) (link : MemoryLink) (counters : Counters) : Driven MemoryLink :=
  broughtUp ((broughtUp iface link).iface.lowered counters) (handedBack iface link)

theorem broughtUpAgain_iface (admits : link.Admits iface) :
    (broughtUpAgain iface link counters).iface =
      { (broughtUp iface link).iface with
        counters
        pool := { (broughtUp iface link).iface.pool with queues := some (handedBack iface link).newQueues } } := by
  have kept : (handedBack iface link).attached = link.attached := handedBack_attached
  have origin : (handedBack iface link).origin = link.origin := by
    unfold MemoryLink.origin
    rw [kept]
  have plan := planFor_again counters admits
  change Interface.raised _ (planFor ((broughtUp iface link).iface.lowered counters) _) _ = _
  rw [origin]
  exact congrArg
    (fun plan : Plan => ((((broughtUp iface link).iface.lowered counters).reserved plan.room).holding
      (some (handedBack iface link).newQueues)).raised plan link.origin) plan

theorem broughtUpAgain_timeless (admits : link.Admits iface)
    (again : (handedBack iface link).Admits ((broughtUp iface link).iface.lowered counters)) :
    (broughtUpAgain iface link counters).backend.state.timeless =
      ((handedBack iface link).opened iface.kind).state.timeless.configured (planFor iface (link.opened iface.kind))
        iface.settings := by
  refine (broughtUp_timeless again).trans ?_
  rw [← planFor_again counters admits]
  rfl

theorem broughtUp_again_iff (admits : link.Admits iface)
    (again : (handedBack iface link).Admits ((broughtUp iface link).iface.lowered counters)) :
    (broughtUp iface link).Again (broughtUpAgain iface link counters) ↔
      (link.attached = true → link.state.Apart iface.settings) := by
  have ifaces := broughtUpAgain_iface counters admits
  have same : (broughtUp iface link).Again (broughtUpAgain iface link counters) ↔
      (broughtUpAgain iface link counters).backend.state.timeless = (broughtUp iface link).backend.state.timeless :=
    ⟨fun repeated => repeated.state,
      fun state => ⟨⟨counters, some (handedBack iface link).newQueues, rfl, ifaces⟩, state⟩⟩
  rw [same, broughtUpAgain_timeless counters admits again, broughtUp_timeless admits, handedBack_opened admits]
  split
  · rename_i attached
    rw [LinkState.stripped_configured_iff (Settings.companions_of_check admits.valid),
      opened_state_of_attached iface.kind attached]
    exact ⟨fun apart _ => ⟨apart.netmask, apart.broadcast, apart.ipv6⟩,
      fun apart => ⟨(apart attached).netmask, (apart attached).broadcast, (apart attached).ipv6⟩⟩
  · rename_i created
    exact iff_of_true rfl fun attached => absurd attached created

end

/-- A bring-up after a bring-up and a tear-down does the same again, unless the link was found with addresses that the
interface replaced or took away, or with an MTU that may be kept but not be committed. -/
theorem up_down_up_iff (armless : link.fault = none) (raised : (Driven.up backend ⟨iface, link⟩).result = .ok ()) :
    let first := (Driven.up backend ⟨iface, link⟩).state
    let lowered := Driven.down backend first
    let second := Driven.up backend lowered.state
    lowered.result = .ok ()
      ∧ (second.result = .ok () ∧ first.Again second.state ↔ (link.attached = true → link.state.Repeatable iface)) := by
  have admits := (up_ok_iff armless).mp raised
  have calm : (handedBack iface link).fault = none := handedBack_fault armless
  have down := down_broughtUp armless admits
  rw [up_state armless admits]
  intro first lowered second
  cases answer : lowered.result with
  | error error => exact (down.of_error answer).elim
  | ok =>
    obtain ⟨counters, left⟩ := down.of_ok answer
    have passed := admits_again_iff counters admits
    have next : second = Driven.up backend ⟨first.iface.lowered counters, handedBack iface link⟩ :=
      congrArg (Driven.up backend) left
    refine ⟨rfl, ?_⟩
    rw [next, up_ok_iff calm]
    constructor
    · rintro ⟨again, same⟩ attached
      rw [up_state calm again] at same
      exact ⟨(broughtUp_again_iff counters admits again).mp same attached, passed.mp again attached⟩
    · intro repeatable
      have again := passed.mpr fun attached => (repeatable attached).mtu
      rw [up_state calm again]
      exact ⟨again, (broughtUp_again_iff counters admits again).mpr fun attached => (repeatable attached).toApart⟩

/-- An interface that finds a link of this size. -/
def visit (mtu : UInt32) : Driven MemoryLink where
  iface := { name := "tap0", id := 0, kind := .tap, pool := { root := 0, capacity := defaultCapacity } }
  backend := existing mtu ⟨#v[0x02, 0, 0, 0, 0, 0x09]⟩

theorem up_down_up_iff_visit :
    (Driven.up backend (visit 9000)).result = .ok ()
      ∧ (Driven.up backend (Driven.down backend (Driven.up backend (visit 9000)).state).state).result = .ok ()
      ∧ (Driven.up backend (visit 9000)).state.Again
        (Driven.up backend (Driven.down backend (Driven.up backend (visit 9000)).state).state).state := by
  have first : (Driven.up backend (visit 9000)).result = .ok () := by
    refine (up_ok_iff rfl).mpr ⟨rfl, rfl, rfl, ?_⟩
    decide
  have again := up_down_up_iff rfl first
  refine ⟨first, again.2.mpr fun _ => ⟨⟨?_, ?_, ?_⟩, ?_⟩⟩
  · exact nofun
  · exact nofun
  · exact nofun
  · decide

/-- A link whose MTU no interface may be given can be brought up only once. -/
theorem up_down_up_refused :
    (Driven.up backend (visit 40)).result.isOk = true
      ∧ (Driven.down backend (Driven.up backend (visit 40)).state).result.isOk = true
      ∧ (Driven.up backend (Driven.down backend (Driven.up backend (visit 40)).state).state).result.isOk = false := by
  decide +kernel

end MemoryLink

end VirtualLink
