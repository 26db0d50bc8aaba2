import VirtualLink.Proofs.Lasting
import VirtualLink.Proofs.MemoryLink.TearDown
import VirtualLink.Proofs.Pending
import VirtualLink.Proofs.Restoring

namespace VirtualLink

open Call Driven

/-- What an interface has asked of a link so far: the addresses that its bring-ups were to add, and whether it was
given a size of its own. -/
structure Asked where
  ipv6 : List Ipv6 := []
  mtu : Bool := false

namespace Asked

/-- The entries that are none of the interface's own. -/
def others (asked : Asked) (entries : List (Ipv6 × UInt8)) : List (Ipv6 × UInt8) :=
  entries.removeAll (asked.ipv6.map (·, ipv6PrefixLength))

def adding (asked : Asked) (addrs : List Ipv6) : Asked :=
  { asked with ipv6 := asked.ipv6 ++ addrs }

def sizing (asked : Asked) (given : Bool) : Asked :=
  { asked with mtu := asked.mtu || given }

def after (asked : Asked) (driven : Driven MemoryLink) : Move → Asked
  | .own .up => asked.adding driven.iface.settings.ipv6
  | .own (.set setter) => asked.sizing (setter.givesMtu && (setter.call driven.iface).result.isOk)
  | _ => asked

/-- What was asked by the end of the moves. -/
def keep (asked : Asked) : List Move → Driven MemoryLink → Asked
  | [], _ => asked
  | move :: rest, driven => (asked.after driven move).keep rest (move.call driven).state

variable {asked : Asked} {addrs : List Ipv6} {entries found : List (Ipv6 × UInt8)}

theorem others_eq_filter : asked.others entries = entries.filter (· ∉ asked.ipv6.map (·, ipv6PrefixLength)) := by
  unfold others List.removeAll
  refine List.filter_congr fun entry _ => ?_
  rw [List.elem_eq_mem, decide_not]

theorem others_filter (kept : Ipv6 × UInt8 → Bool)
    (own : ∀ entry, kept entry = false → entry ∈ asked.ipv6.map (·, ipv6PrefixLength)) :
    asked.others (entries.filter kept) = asked.others entries := by
  rw [others_eq_filter, others_eq_filter, List.filter_filter]
  refine List.filter_congr fun entry _ => ?_
  cases known : kept entry with
  | true => exact Bool.and_true _
  | false => simp [own entry known]

theorem others_append (own : addrs ⊆ asked.ipv6) :
    asked.others (entries ++ addrs.map (·, ipv6PrefixLength)) = asked.others entries := by
  have none : (addrs.map (·, ipv6PrefixLength)).filter (· ∉ asked.ipv6.map (·, ipv6PrefixLength)) = [] := by
    refine List.filter_eq_nil_iff.mpr fun entry member => ?_
    have among : entry ∈ asked.ipv6.map (·, ipv6PrefixLength) := List.map_subset _ own member
    simpa using among
  rw [others_eq_filter, others_eq_filter, List.filter_append, none, List.append_nil]

/-- Nothing that was asked is forgotten. -/
structure Le (asked more : Asked) : Prop where
  ipv6 : asked.ipv6 ⊆ more.ipv6
  mtu : asked.mtu = true → more.mtu = true

theorem le_adding (asked : Asked) (addrs : List Ipv6) : asked.Le (asked.adding addrs) :=
  ⟨List.subset_append_left .., fun given => given⟩

theorem le_sizing (asked : Asked) (given : Bool) : asked.Le (asked.sizing given) :=
  ⟨List.Subset.refl _, fun before => by simp [sizing, before]⟩

/-- The more is asked, the less is left to others. -/
theorem Le.others {more : Asked} (le : asked.Le more) (same : asked.others entries = asked.others found) :
    more.others entries = more.others found := by
  have part (entries : List (Ipv6 × UInt8)) : more.others (asked.others entries) = more.others entries := by
    rw [asked.others_eq_filter]
    exact others_filter _ fun entry own => List.map_subset _ le.ipv6 (by simpa using own)
  rw [← part entries, same, part found]

end Asked

/-- While an interface is up on a link that it found, it knows what to give back. -/
structure Lent (found : LinkState) (asked : Asked) (iface : Interface) (state : LinkState) : Prop where
  held : ∃ queues, iface.pool.queues = some queues
  restore : iface.restore = some ⟨if iface.kind.isTap then some found.mac else none, found.mtu⟩
  mac : iface.kind.isTap = false → state.mac = found.mac
  mtu : iface.mtuChosen = false → state.mtu = found.mtu
  ipv6 : iface.settings.ipv6 ⊆ asked.ipv6

/-- An interface of this kind and the link that it found. -/
structure Borrowed (kind : Kind) (found : LinkState) (asked : Asked) (driven : Driven MemoryLink) : Prop where
  attached : driven.backend.attached = true
  there : driven.backend.state.exists? = true
  kind : driven.iface.kind = kind
  chosen : driven.iface.mtuChosen = true → asked.mtu = true
  ipv6 : asked.others driven.backend.state.ipv6 = asked.others found.ipv6
  idle : driven.iface.isUp = false → driven.backend.state.mtu = found.mtu ∧ driven.backend.state.mac = found.mac
  lent : driven.iface.isUp = true → Lent found asked driven.iface driven.backend.state

namespace MemoryLink

variable {link after : MemoryLink}

/-- The link is for its interface what it was. -/
structure Stays (link after : MemoryLink) : Prop where
  attached : after.attached = link.attached
  state : after.state = link.state

theorem Stays.refl (link : MemoryLink) : link.Stays link :=
  ⟨rfl, rfl⟩

theorem Conveyed.stays (conveyed : link.Conveyed after) : link.Stays after := by
  obtain ⟨pairs, rfl⟩ := conveyed
  exact ⟨rfl, rfl⟩

theorem readStat_stays (name stat : String) (there : link.state.exists? = true) :
    (backend.readStat name stat).Ensures (fun _ => link.Stays) (fun _ => link.Stays) link := by
  simp only [backend, readStat, ensures_bind, inject_ensures, requireLink_ensures name there]
  split
  · exact ⟨rfl, rfl⟩
  · cases Stat.ofName stat with
    | error error => exact .refl link
    | ok index => exact .refl link

theorem peerSend_stays (frame : Bytes) :
    (peerSend frame).Ensures (fun _ => link.Stays) (fun _ => link.Stays) link := by
  refine (link.peerSend_counted frame).mono (fun _ after counted => ?_) fun _ _ conveyed => conveyed.stays
  obtain ⟨-, pairs, rfl⟩ := counted
  exact ⟨rfl, rfl⟩

theorem peerReceive_stays : peerReceive.Ensures (fun _ => link.Stays) (fun _ => link.Stays) link := by
  refine link.peerReceive_counted.mono (fun arrived after counted => ?_) fun _ _ conveyed => conveyed.stays
  cases arrived with
  | none => exact counted.stays
  | some frame =>
    obtain ⟨-, pairs, rfl⟩ := counted
    exact ⟨rfl, rfl⟩

theorem setStat_stays (stat : String) (value : UInt64) :
    (setStat stat value).Ensures (fun _ => link.Stays) (fun _ => link.Stays) link := by
  unfold setStat
  cases Stat.ofName stat with
  | error error => exact .refl link
  | ok index => exact ⟨rfl, rfl⟩

end MemoryLink

namespace Borrowed

variable {kind : Kind} {found : LinkState} {asked : Asked} {iface : Interface} {link after : MemoryLink}
  {driven : Driven MemoryLink}

theorem stays (borrowed : Borrowed kind found asked ⟨iface, link⟩) (same : link.Stays after) :
    Borrowed kind found asked ⟨iface, after⟩ := by
  obtain ⟨attached, there, kind, chosen, ipv6, idle, lent⟩ := borrowed
  constructor
  case attached => exact same.attached.trans attached
  all_goals
    simp only [same.state]
    assumption

/-- What is counted and what frames are read into has nothing to do with it. -/
theorem unrelated (borrowed : Borrowed kind found asked ⟨iface, link⟩) (counters : Counters) (scratch : Bytes) :
    Borrowed kind found asked ⟨{ iface with counters, pool := { iface.pool with scratch } }, link⟩ :=
  { borrowed with
    lent := fun up => { borrowed.lent up with } }

theorem mono {more : Asked} (borrowed : Borrowed kind found asked driven) (le : asked.Le more) :
    Borrowed kind found more driven :=
  { borrowed with
    chosen := fun own => le.mtu (borrowed.chosen own)
    ipv6 := le.others borrowed.ipv6
    lent := fun up => { borrowed.lent up with ipv6 := List.Subset.trans (borrowed.lent up).ipv6 le.ipv6 } }

theorem unobserved : Unobserved MemoryLink.backend (Borrowed kind found asked) where
  counters _ counters borrowed := borrowed.unrelated counters _
  readStat _ stat borrowed :=
    (ensures_onBackend _).mpr ((MemoryLink.readStat_stays _ stat borrowed.there).mono
      (fun _ _ same => borrowed.stays same) fun _ _ same => borrowed.stays same)

/-- A failed bring-up leaves the link as it was for all others. -/
theorem left (borrowed : Borrowed kind found asked ⟨iface, link⟩) (down : iface.isUp = false)
    (scratch : Bytes) (queues : Option Queues) (attached : after.attached = true)
    (left : LinkState.LeftBy iface.settings.ipv6 link.state after.state) :
    Borrowed kind found (asked.adding iface.settings.ipv6)
      ⟨{ iface with pool := { iface.pool with scratch, queues } }, after⟩ where
  attached := attached
  there := left.spared.existence.trans borrowed.there
  kind := borrowed.kind
  chosen := borrowed.chosen
  ipv6 := by
    have before := (borrowed.mono (asked.le_adding iface.settings.ipv6)).ipv6
    rw [left.spared.ipv6]
    split
    · refine (Asked.others_filter _ fun entry own => ?_).trans before
      have mine : entry.2 = ipv6PrefixLength ∧ entry.1 ∈ iface.settings.ipv6 := by simpa using own
      refine List.mem_map.mpr ⟨entry.1, List.mem_append_right _ mine.2, ?_⟩
      rw [← mine.1]
    · exact before
  idle _ := ⟨left.spared.mtu.trans (borrowed.idle down).1, left.spared.mac.trans (borrowed.idle down).2⟩
  lent up := absurd (down.symm.trans up) (by decide)

/-- A bring-up that is granted writes down what it found. -/
theorem raised (borrowed : Borrowed kind found asked ⟨iface, link⟩) (down : iface.isUp = false)
    (valid : iface.settings.check = .ok ()) :
    let plan := MemoryLink.planFor iface (link.opened iface.kind)
    Borrowed kind found (asked.adding iface.settings.ipv6)
      ⟨((iface.reserved plan.room).holding (some link.newQueues)).raised plan link.origin,
        (link.opened iface.kind).granted ((plan.steps iface.name iface.settings).map Step.request)⟩ := by
  intro plan
  have opened := MemoryLink.opened_state_of_attached iface.kind borrowed.attached
  have idle := borrowed.idle down
  have origin : link.origin = .attached := if_pos borrowed.attached
  have mtu : plan.previousMtu = found.mtu := (congrArg LinkState.mtu opened).trans idle.1
  have mac : plan.previousMac = if iface.kind.isTap then some found.mac else none := by
    change (if iface.kind.isTap then some (link.opened iface.kind).state.mac else none) = _
    rw [opened, ← idle.2]
  have configured :
      ((link.opened iface.kind).state.grantAll ((plan.steps iface.name iface.settings).map Step.request)) =
        { (link.opened iface.kind).state.configured plan iface.settings with
          log := (link.opened iface.kind).state.log
            ++ ((plan.steps iface.name iface.settings).map Step.request).map Request.op } := by
    rw [LinkState.grantAll_eq, LinkState.applyAll_steps_eq_configured _ _ _ (Settings.companions_of_check valid)]
  constructor
  case attached => exact (MemoryLink.opened_attached iface.kind).trans borrowed.attached
  case there => exact (MemoryLink.granted_exists _).trans ((congrArg LinkState.exists? opened).trans borrowed.there)
  case kind => exact borrowed.kind
  case chosen => exact borrowed.chosen
  case ipv6 =>
    have own : iface.settings.ipv6 ⊆ (asked.adding iface.settings.ipv6).ipv6 := List.subset_append_right ..
    have before := (borrowed.mono (asked.le_adding iface.settings.ipv6)).ipv6
    refine (congrArg (asked.adding iface.settings.ipv6).others (congrArg LinkState.ipv6 configured)).trans ?_
    refine (Asked.others_append own).trans ?_
    rw [opened]
    exact before
  case idle =>
    intro down
    cases down
  case lent =>
    intro _
    constructor
    case held => exact ⟨link.newQueues, rfl⟩
    case restore =>
      change (if link.origin = .attached then some (⟨plan.previousMac, plan.previousMtu⟩ : Restore) else none) = _
      rw [if_pos origin, mac, mtu]
      rfl
    case mac =>
      intro tun
      change iface.kind.isTap = false at tun
      have unread : plan.previousMac.isSome = false := by simp [mac, tun]
      refine (congrArg LinkState.mac configured).trans ?_
      simp only [LinkState.configured, unread, opened]
      exact idle.2
    case mtu =>
      intro unchosen
      change iface.mtuChosen = false at unchosen
      have adopted : plan.mtu = (link.opened iface.kind).state.mtu :=
        if_pos ⟨(MemoryLink.opened_origin iface.kind).trans origin, by simp [unchosen]⟩
      exact (congrArg LinkState.mtu configured).trans (adopted.trans mtu)
    case ipv6 => exact List.subset_append_right ..

theorem up (borrowed : Borrowed kind found asked driven) :
    (Driven.up MemoryLink.backend).Ensures
      (fun _ => Borrowed kind found (asked.adding driven.iface.settings.ipv6))
      (fun _ => Borrowed kind found (asked.adding driven.iface.settings.ipv6)) driven := by
  obtain ⟨iface, link⟩ := driven
  by_cases up : iface.isUp = true
  · exact up_refused up (borrowed.mono (asked.le_adding _))
  · have down : iface.isUp = false := Bool.eq_false_iff.mpr up
    exact MemoryLink.up_ensures_of_attached borrowed.there borrowed.attached down
      (fun _ scratch queues _ attached left => borrowed.left down scratch queues attached left) (borrowed.raised down)

/-- A tear-down that is granted everything gives the link back. -/
theorem lowered (borrowed : Borrowed kind found asked ⟨iface, link⟩) (up : iface.isUp = true) (queues : Queues)
    (counters : Counters) :
    Borrowed kind found asked ⟨iface.lowered counters, (link.granted iface.tearDown).released queues⟩ := by
  have lent := borrowed.lent up
  have attached : (link.granted iface.tearDown).attached = true := borrowed.attached
  obtain ⟨told, -, released⟩ := MemoryLink.released_state_of_attached queues attached
  -- Of all that the tear-down leaves, only the log depends on the closing.
  have returned {α : Type} (read : LinkState → α)
      (blind : ∀ (state : LinkState) log, read { state with log } = read state) :
      read ((link.granted iface.tearDown).released queues).state =
        read ((link.state.applyAll iface.settings.retractions).applyAll
          (Restore.requests ⟨if iface.kind.isTap then some found.mac else none, found.mtu⟩)) := by
    rw [released, blind]
    change read (link.state.grantAll iface.tearDown) = _
    rw [LinkState.grantAll_eq, blind, Interface.tearDown, lent.restore, LinkState.applyAll_append]
    rfl
  simp only [LinkState.applyAll_restore, LinkState.applyAll_retractions] at returned
  constructor
  case attached => exact ((link.granted iface.tearDown).released_gone queues).2.1.trans borrowed.attached
  case there => exact (returned LinkState.exists? fun _ _ => rfl).trans borrowed.there
  case kind => exact borrowed.kind
  case chosen => exact borrowed.chosen
  case ipv6 =>
    refine (congrArg asked.others (returned LinkState.ipv6 fun _ _ => rfl)).trans (Eq.trans ?_ borrowed.ipv6)
    refine Asked.others_filter _ fun entry own => List.map_subset _ lent.ipv6 (by simpa using own)
  case idle =>
    refine fun _ => ⟨returned LinkState.mtu fun _ _ => rfl, (returned LinkState.mac fun _ _ => rfl).trans ?_⟩
    cases tap : iface.kind.isTap with
    | true => rfl
    | false => exact lent.mac tap
  case lent =>
    intro up
    cases up

theorem down (borrowed : Borrowed kind found asked driven) :
    (Driven.down MemoryLink.backend).Ensures
      (fun _ after => after.backend.fault = driven.backend.fault → Borrowed kind found asked after)
      (fun _ after => after.backend.fault = driven.backend.fault → Borrowed kind found asked after) driven := by
  obtain ⟨iface, link⟩ := driven
  by_cases up : iface.isUp = true
  · obtain ⟨queues, held⟩ := (borrowed.lent up).held
    refine MemoryLink.down_ensures up held borrowed.there (fun counters _ => borrowed.lowered up queues counters) ?_
    intro counters after armed calm
    have struck : after.fault ≠ link.fault := fun same => armed (same.symm.trans calm)
    exact ⟨fun same => absurd same struck, fun _ same => absurd same struck⟩
  · exact down_refused (Bool.eq_false_iff.mpr up) fun _ => borrowed

theorem set (borrowed : Borrowed kind found asked ⟨iface, link⟩) (setter : Setter) :
    Borrowed kind found (asked.sizing (setter.givesMtu && (setter.call iface).result.isOk))
      ⟨(setter.call iface).state, link⟩ := by
  by_cases up : iface.isUp = true
  · have refused : (setter.call iface).state = iface := congrArg Reply.state (setter.refuses up)
    rw [refused]
    exact borrowed.mono (asked.le_sizing _)
  · have down : iface.isUp = false := Bool.eq_false_iff.mpr up
    have unsettled : Interface.Unsettled fun iface => iface.kind = kind ∧ iface.isUp = false :=
      fun _ _ _ _ before => before
    obtain ⟨still, downStill⟩ := (setter.call_keeps unsettled).after ⟨borrowed.kind, down⟩
    have chosen := setter.call_mtuChosen down
    have sized := borrowed.mono (asked.le_sizing (setter.givesMtu && (setter.call iface).result.isOk))
    constructor
    case attached => exact borrowed.attached
    case there => exact borrowed.there
    case kind => exact still
    case chosen =>
      intro own
      cases answered : (setter.call iface).result with
      | ok answer =>
        rcases chosen.of_ok answered own with before | gives
        · simp [Asked.sizing, borrowed.chosen before]
        · simp [Asked.sizing, gives, Except.isOk, Except.toBool]
      | error error => simp [Asked.sizing, borrowed.chosen ((chosen.of_error answered).symm.trans own)]
    case ipv6 => exact sized.ipv6
    case idle => exact fun _ => borrowed.idle down
    case lent => exact fun up => absurd (downStill.symm.trans up) (by decide)

theorem send (packet : Packet) :
    (Driven.send MemoryLink.backend packet).Keeps (Borrowed kind found asked) :=
  send_keeps (fun _ queues frame _ _ before => (ensures_onBackend _).mpr
    ((MemoryLink.write_conveys queues.tx frame).mono (fun _ _ conveyed => before.stays conveyed.stays)
      fun _ _ conveyed => before.stays conveyed.stays)) packet

theorem receive : (Driven.receive MemoryLink.backend).Keeps (Borrowed kind found asked) := by
  refine Lasting.receive fun driven queues _ _ before => (ensures_onBackend _).mpr ?_
  refine (MemoryLink.read_conveys queues.rx driven.iface.pool.used).mono (fun frame after conveyed => ?_)
    fun _ _ conveyed => before.stays conveyed.stays
  exact (before.stays conveyed.stays).unrelated driven.iface.counters (driven.iface.pool.store frame).scratch

end Borrowed

def Move.lowers : Move → Bool
  | .own .down => true
  | _ => false

/-- No order to fail strikes a tear-down. -/
def Move.Smooth : List Move → Driven MemoryLink → Prop
  | [], _ => True
  | move :: rest, driven =>
    (move.lowers = true → (move.call driven).state.backend.fault = driven.backend.fault)
      ∧ Move.Smooth rest (move.call driven).state

instance Move.decidableSmooth : ∀ moves driven, Decidable (Move.Smooth moves driven)
  | [], _ => isTrue trivial
  | _ :: rest, _ => @instDecidableAnd _ _ _ (Move.decidableSmooth rest _)

namespace Borrowed

variable {kind : Kind} {found : LinkState} {asked : Asked} {driven : Driven MemoryLink}

theorem act (borrowed : Borrowed kind found asked driven) (action : Action)
    (smooth : action = .down → (action.call MemoryLink.backend driven).state.backend.fault = driven.backend.fault) :
    Borrowed kind found (asked.after driven (.own action)) (action.call MemoryLink.backend driven).state := by
  cases action with
  | set setter =>
    refine ensures_state_iff.mp ((ensures_map _ _).mpr ((ensures_onInterface _).mpr ?_))
    exact ensures_state_iff.mpr (borrowed.set setter)
  | up => exact ensures_state_iff.mp ((ensures_map _ _).mpr borrowed.up)
  | down =>
    have lowered : (Action.call MemoryLink.backend .down).Ensures
        (fun _ after => after.backend.fault = driven.backend.fault → Borrowed kind found asked after)
        (fun _ after => after.backend.fault = driven.backend.fault → Borrowed kind found asked after) driven :=
      (ensures_map _ _).mpr borrowed.down
    exact ensures_state_iff.mp lowered (smooth rfl)
  | send packet => exact ((Borrowed.send packet).map _).after borrowed
  | receive => exact (Borrowed.receive.map _).after borrowed
  | readStat name => exact ((readStat_keeps unobserved.observe name).map _).after borrowed
  | clearStat name => exact ((unobserved.clear name).map _).after borrowed
  | snapshot => exact ((snapshot_keeps unobserved.observe).map _).after borrowed

theorem step (borrowed : Borrowed kind found asked driven) (move : Move)
    (smooth : move.lowers = true → (move.call driven).state.backend.fault = driven.backend.fault) :
    Borrowed kind found (asked.after driven move) (move.call driven).state := by
  cases move with
  | own action =>
    refine borrowed.act action ?_
    rintro rfl
    exact smooth rfl
  | peerSend frame => exact borrowed.stays (ensures_state_iff.mp (MemoryLink.peerSend_stays frame))
  | peerReceive => exact borrowed.stays (ensures_state_iff.mp MemoryLink.peerReceive_stays)
  | setStat name value => exact borrowed.stays (ensures_state_iff.mp (MemoryLink.setStat_stays name value))
  | arm op => exact borrowed.stays ⟨rfl, rfl⟩

theorem run (borrowed : Borrowed kind found asked driven) (moves : List Move) (smooth : Move.Smooth moves driven) :
    Borrowed kind found (asked.keep moves driven) (Move.run moves driven) := by
  induction moves generalizing asked driven with
  | nil => exact borrowed
  | cons move rest ih => exact ih (borrowed.step move smooth.1) smooth.2

end Borrowed

/-- Whatever an interface does with a link that it found, it gives the size and the hardware address of the link back
when it goes down, and what it never asked for it leaves alone. -/
theorem attached_link_given_back (name : String) (id : UInt32) (kind : Kind) (root : RootId) (capacity : Nat)
    (link : MemoryLink) (moves : List Move) :
    let start : Driven MemoryLink := ⟨Interface.new name id kind root capacity, link⟩
    let iface := (Move.run moves start).iface
    let state := (Move.run moves start).backend.state
    let asked := Asked.keep {} moves start
    link.attached = true → link.state.exists? = true → Move.Smooth moves start →
    state.exists? = true
      ∧ (iface.isUp = false → state.mtu = link.state.mtu ∧ state.mac = link.state.mac)
      ∧ (kind = .tun → state.mac = link.state.mac)
      ∧ (asked.mtu = false → state.mtu = link.state.mtu)
      ∧ asked.others state.ipv6 = asked.others link.state.ipv6 := by
  intro start iface state asked attached there smooth
  have down : start.iface.isUp = false := rfl
  have unchosen : start.iface.mtuChosen = false := rfl
  have untouched : Borrowed kind link.state {} start :=
    ⟨attached, there, rfl, fun own => absurd own (by simp [unchosen]), rfl, fun _ => ⟨rfl, rfl⟩,
      fun up => absurd up (by simp [down])⟩
  have borrowed : Borrowed kind link.state asked ⟨iface, (Move.run moves start).backend⟩ :=
    untouched.run moves smooth
  refine ⟨borrowed.there, borrowed.idle, fun tun => ?_, fun unasked => ?_, borrowed.ipv6⟩
  · by_cases up : iface.isUp = true
    · have kind : iface.kind = .tun := borrowed.kind.trans tun
      exact (borrowed.lent up).mac (by simp [kind, Kind.isTap])
    · exact (borrowed.idle (Bool.eq_false_iff.mpr up)).2
  · by_cases up : iface.isUp = true
    · refine (borrowed.lent up).mtu (Bool.eq_false_iff.mpr fun own => ?_)
      rw [borrowed.chosen own] at unasked
      cases unasked
    · exact (borrowed.idle (Bool.eq_false_iff.mpr up)).1

/-- The interface goes up with the size that it found and then, after a failure, with one of its own. -/
def Move.visits : List Move :=
  [.own .up, .own .down, .own (.set (.mtu 1400)), .arm .setAdminUp, .own .up, .own .up, .own .down]

theorem attached_link_given_back_visits :
    let driven := Move.run Move.visits
      ⟨Interface.new "tap0" 0 .tap 0 defaultCapacity, MemoryLink.existing 9000 ⟨#v[2, 0, 0, 0, 0, 7]⟩⟩
    driven.iface.isUp = false ∧ driven.backend.state.mtu = 9000
      ∧ driven.backend.state.mac = ⟨#v[2, 0, 0, 0, 0, 7]⟩ := by
  have smooth : Move.Smooth Move.visits
      ⟨Interface.new "tap0" 0 .tap 0 defaultCapacity, MemoryLink.existing 9000 ⟨#v[2, 0, 0, 0, 0, 7]⟩⟩ := by
    decide +kernel
  have down : (Move.run Move.visits ⟨Interface.new "tap0" 0 .tap 0 defaultCapacity,
      MemoryLink.existing 9000 ⟨#v[2, 0, 0, 0, 0, 7]⟩⟩).iface.isUp = false := by
    decide +kernel
  obtain ⟨-, back, -⟩ := attached_link_given_back "tap0" 0 .tap 0 defaultCapacity
    (MemoryLink.existing 9000 ⟨#v[2, 0, 0, 0, 0, 7]⟩) Move.visits rfl rfl smooth
  exact ⟨down, back down⟩

end VirtualLink
