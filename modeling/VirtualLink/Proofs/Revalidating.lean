import VirtualLink.Proofs.Addressing
import VirtualLink.Proofs.Fitting
import VirtualLink.Proofs.Lowering
import VirtualLink.Proofs.Returning

namespace VirtualLink

open Call Driven

variable {σ : Type} {backend : Backend σ}

namespace Setter

variable {iface after : Interface} {setters : List Setter} {ranged : Prop}

/-- The fields of an interface that is down are fit, and so is the MTU where it is to be. -/
structure Fitting (ranged : Prop) (iface : Interface) : Prop where
  down : iface.isUp = false
  fit : iface.settings.Fit
  sized : ranged → iface.settings.Sized

theorem callAll_keeps {kept : Interface → Prop} (each : ∀ setter ∈ setters, setter.call.Keeps kept) :
    (callAll setters).Keeps kept := by
  induction setters with
  | nil => exact fun _ before => before
  | cons setter rest ih =>
    rw [List.forall_mem_cons] at each
    exact each.1.bind fun _ => ih each.2

theorem Changed.fitting {setter : Setter} (changed : setter.Changed iface after)
    (other : ∀ text, setter ≠ .moreIpv6 text) (before : Fitting ranged iface) : Fitting ranged after := by
  obtain ⟨down, fit, sized⟩ := before
  cases changed with
  | mac read =>
    refine ⟨down, ⟨fun mac given => ?_, fit.netmask, fit.ipv6⟩, sized⟩
    exact checkMac_eq_ok_iff_assignable.mp (checkMac_of_readMac (Option.some.inj given ▸ read))
  | netmask read =>
    refine ⟨down, ⟨fit.mac, fun mask given => ?_, fit.ipv6⟩, sized⟩
    exact checkNetmask_eq_ok_iff.mp (checkNetmask_of_readNetmask (Option.some.inj given ▸ read))
  | ipv6 read => exact ⟨down, ⟨fit.mac, fit.netmask, nodup_of_appendIpv6List List.nodup_nil read⟩, sized⟩
  | moreIpv6 => exact absurd rfl (other _)
  | mtu fits => exact ⟨down, ⟨fit.mac, fit.netmask, fit.ipv6⟩, fun _ => Settings.sized_iff.mpr fits⟩
  | ipv4 | broadcast => exact ⟨down, ⟨fit.mac, fit.netmask, fit.ipv6⟩, sized⟩

/-- The change alone does not tell that the address that is added is new. -/
theorem addIpv6_fitting (text : String) : (Interface.addIpv6 text).Keeps (Fitting ranged) := by
  intro iface before
  obtain ⟨down, fit, sized⟩ := before
  refine ensures_state_iff.mpr ?_
  rw [Interface.addIpv6_eq down fit.ipv6]
  cases Ipv6.parse? text with
  | none => exact ⟨down, fit, sized⟩
  | some addr =>
    by_cases listed : addr ∈ iface.settings.ipv6
    · simp only [if_pos listed]
      exact ⟨down, fit, sized⟩
    · simp only [if_neg listed]
      exact ⟨down, ⟨fit.mac, fit.netmask, nodup_append_singleton fit.ipv6 listed⟩, sized⟩

theorem call_fitting_of_single {setter : Setter} (single : ∀ given, setter ≠ .entry given) :
    setter.call.Keeps (Fitting ranged) := by
  by_cases more : ∃ text, setter = .moreIpv6 text
  · obtain ⟨text, rfl⟩ := more
    exact addIpv6_fitting text
  · exact fun iface before => call_ensures before.down setter single (fun _ => before) fun _ changed =>
      changed.fitting (not_exists.mp more) before

/-- A setter leaves fields that are fit, however far it comes. -/
theorem call_fitting (setter : Setter) : setter.call.Keeps (Fitting ranged) := by
  by_cases composite : ∃ given, setter = .entry given
  · obtain ⟨entry, rfl⟩ := composite
    intro iface before
    refine (Interface.configure_ensures before.down entry).mpr (callAll_keeps (fun setter member => ?_) iface before)
    exact call_fitting_of_single (single_of_mem_setters entry setter member)
  · exact call_fitting_of_single (not_exists.mp composite)

end Setter

/-- The turn opens a link that was there before. -/
def Turn.attaches : Turn → Bool
  | .acquire _ _ (.ok queues) => queues.origin == .attached
  | _ => false

/-- Every link that was opened was created. -/
def Turn.OnlyCreated (turns : List Turn) : Prop :=
  ∀ turn ∈ turns, turn.attaches = false

theorem Interface.assignable_chosenMac (iface : Interface) (fit : iface.settings.Fit) :
    (chosenMac iface).Assignable := by
  unfold chosenMac
  cases given : iface.settings.mac with
  | none => exact checkMac_eq_ok_iff_assignable.mp (Mac.check_generate iface.id iface.name)
  | some mac => exact fit.mac mac given

namespace Driven

/-- The fields are fit, and so is the MTU unless it was adopted from a link. -/
structure Fitting (driven : Driven (Transcribed σ)) : Prop where
  held : driven.iface.isUp = true → ∃ queues, driven.iface.pool.queues = some queues
  fit : driven.iface.settings.Fit
  sized : Turn.OnlyCreated driven.backend.turns → driven.iface.settings.Sized

namespace Fitting

variable {driven : Driven (Transcribed σ)}

theorem new (name : String) (id : UInt32) (kind : Kind) (root : RootId) (capacity : Nat) (state : σ) :
    Fitting ⟨Interface.new name id kind root capacity, ⟨state, []⟩⟩ where
  held up := by cases up
  fit := ⟨nofun, nofun, List.nodup_nil⟩
  sized _ := (by decide : 68 ≤ defaultMtu.toNat ∧ defaultMtu.toNat ≤ 65536)

theorem told {after : Driven (Transcribed σ)} (fitting : Fitting driven) {turns : List Turn}
    (held : after.iface.isUp = true → ∃ queues, after.iface.pool.queues = some queues)
    (settings : after.iface.settings = driven.iface.settings)
    (whole : after.backend.turns = driven.backend.turns ++ turns) : Fitting after := by
  refine ⟨held, settings ▸ fitting.fit, fun created => settings ▸ fitting.sized fun turn member => ?_⟩
  exact created turn (whole ▸ List.mem_append_left _ member)

theorem untold {ε α : Type} (call : Call ε σ α) :
    (onBackend (call.zoom Transcribed.state Transcribed.put)).Keeps Fitting := by
  intro driven before
  simp only [ensures_onBackend, ensures_zoom]
  unfold Ensures
  split <;> exact ⟨before.held, before.fit, before.sized⟩

theorem unobserved : Unobserved backend.transcribed Fitting where
  counters _ _ before := ⟨before.held, before.fit, before.sized⟩
  readStat driven stat before := by
    rw [ensures_onBackend]
    exact transcribed_ensures (fun _ _ => before.told before.held rfl rfl) fun _ _ => before.told before.held rfl rfl

theorem up : (Driven.up backend.transcribed).Keeps Fitting := by
  rintro ⟨iface, transcribed⟩ before
  cases isUp : iface.isUp with
  | true => exact up_refused isUp before
  | false =>
    refine up_transcribed isUp ?invalid ?unwound ?brought
    case invalid => exact fun _ _ => before
    case unwound =>
      intro error turns pool state _
      exact before.told (fun up => absurd up (by simp [isUp])) rfl rfl
    case brought =>
      intro queues mac mtu state
      refine ⟨fun _ => ⟨queues, rfl⟩, ⟨fun mac given => ?_, before.fit.netmask, before.fit.ipv6⟩, fun created => ?_⟩
      · exact Option.some.inj given ▸ iface.assignable_chosenMac before.fit
      · have opened := created (.acquire iface.name iface.kind (.ok queues))
          (List.mem_append_right _ (List.mem_cons_self ..))
        have origin : queues.origin ≠ .attached := beq_eq_false_iff_ne.mp opened
        have kept : iface.mtuOn queues.origin mtu = iface.settings.mtu := by
          simp [Interface.mtuOn, origin]
        have earlier := before.sized fun turn member => created turn (List.mem_append_left _ member)
        change 68 ≤ (iface.mtuOn queues.origin mtu).toNat ∧ (iface.mtuOn queues.origin mtu).toNat ≤ 65536
        exact kept ▸ earlier

theorem down : (Driven.down backend.transcribed).Keeps Fitting := by
  rintro ⟨iface, transcribed⟩ before
  cases isUp : iface.isUp with
  | false => exact down_refused isUp before
  | true =>
    obtain ⟨queues, held⟩ := before.held isUp
    refine down_transcribed isUp held (fun _ => Fitting) fun result turns counters state _ => ?_
    exact before.told (fun up => by cases up) rfl rfl

theorem set (setter : Setter) : (onInterface setter.call : Call Error (Driven (Transcribed σ)) Unit).Keeps Fitting := by
  rintro ⟨iface, transcribed⟩ before
  rw [ensures_onInterface]
  cases isUp : iface.isUp with
  | true =>
    unfold Ensures
    rw [Setter.refuses setter isUp]
    exact before
  | false =>
    have left (after : Interface) (fitting : Setter.Fitting (Turn.OnlyCreated transcribed.turns) after) :
        Fitting (⟨after, transcribed⟩ : Driven (Transcribed σ)) :=
      ⟨fun up => absurd up (by simp [fitting.down]), fitting.fit, fitting.sized⟩
    exact (Setter.call_fitting setter iface ⟨isUp, before.fit, before.sized⟩).mono (fun _ => left) fun _ => left

theorem call (action : Action) : (action.call backend.transcribed).Keeps Fitting := by
  cases action with
  | set setter => exact (set setter).map _
  | up => exact up.map _
  | down => exact down.map _
  | send packet =>
    exact (send_keeps (fun driven queues frame _ _ before => untold (backend.write queues.tx frame) driven before)
      packet).map _
  | receive =>
    refine Keeps.map _ (Lasting.receive fun driven queues up held before => ?_)
    refine (untold (backend.read queues.rx _) driven before).mono (fun _ after still => ?_) fun _ _ still => still
    exact ⟨still.held, still.fit, still.sized⟩
  | readStat name => exact (readStat_keeps unobserved.observe name).map _
  | clearStat name => exact (unobserved.clear name).map _
  | snapshot => exact (snapshot_keeps unobserved.observe).map _

theorem run (fitting : Fitting driven) (actions : List Action) :
    Fitting (Action.run backend.transcribed actions driven) := by
  induction actions generalizing driven with
  | nil => exact fitting
  | cons action rest ih => exact ih ((call action).after fitting)

/-- After any calls at all each field is fit, but for an MTU that was adopted. -/
theorem reached (backend : Backend σ) (state : σ) (name : String) (id : UInt32) (kind : Kind) (root : RootId)
    (capacity : Nat) (actions : List Action) :
    let new := Interface.new name id kind root capacity
    let settings := (Action.run backend actions ⟨new, state⟩).iface.settings
    settings.Fit
      ∧ (Turn.OnlyCreated (Action.run backend.transcribed actions ⟨new, ⟨state, []⟩⟩).backend.turns →
        settings.Sized) := by
  intro new settings
  have fitting : Fitting (Action.run backend.transcribed actions ⟨new, ⟨state, []⟩⟩) :=
    (Fitting.new name id kind root capacity state).run actions
  have same : settings = (Action.run backend.transcribed actions ⟨new, ⟨state, []⟩⟩).iface.settings :=
    congrArg (fun driven => driven.iface.settings) (backend.transcribed_mirrors.run actions ⟨new, ⟨state, []⟩⟩)
  exact ⟨same ▸ fitting.fit, same ▸ fitting.sized⟩

end Fitting

/-- A bring-up stops at once at settings that break a rule. -/
theorem up_invalid {σ : Type} (backend : Backend σ) {driven : Driven σ} {v : Violation}
    (down : driven.iface.isUp = false) (broken : driven.iface.settings.check = .error v) :
    Driven.up backend driven = ⟨.error (.violation v), driven, []⟩ := by
  change (if driven.iface.isUp then fail (driven.iface.stateError "up")
    else Call.check driven.iface.settings.check >>= _ : Call Error (Driven σ) Unit) driven = _
  rw [if_neg (by simp [down]), broken]
  rfl

end Driven

/-- Settings pass their check if each field is fit and neither a netmask nor a broadcast address stands alone. What an
interface is to commit breaks no other rule, as long as its links are created. -/
theorem check_refuses_orphans :
    (∀ settings : Settings, settings.check = .ok () ↔ settings.Fit ∧ settings.Sized ∧ ¬ settings.Orphaned)
      ∧ ∀ {σ : Type} (backend : Backend σ) (state : σ) (name : String) (id : UInt32) (kind : Kind) (root : RootId)
          (capacity : Nat) (actions : List Action),
        let new := Interface.new name id kind root capacity
        let driven := Action.run backend actions ⟨new, state⟩
        let settings := driven.iface.settings
        Turn.OnlyCreated (Action.run backend.transcribed actions ⟨new, ⟨state, []⟩⟩).backend.turns →
          (∀ v, settings.check = .error v → v.rule = .requiresIpv4)
            ∧ (settings.check ≠ .ok () ↔ settings.Orphaned)
            ∧ (driven.iface.isUp = false → settings.Orphaned →
              ∃ v, Driven.up backend driven = ⟨.error (.violation v), driven, []⟩ ∧ v.rule = .requiresIpv4) := by
  refine ⟨fun settings => settings.check_eq_ok_iff_fit, ?_⟩
  intro σ backend state name id kind root capacity actions new driven settings created
  have reached := Fitting.reached backend state name id kind root capacity actions
  have fit : settings.Fit := reached.1
  have sized : settings.Sized := reached.2 created
  have rule : ∀ v, settings.check = .error v → v.rule = .requiresIpv4 := fun v broken => fit.rule_of_check sized broken
  have refused : settings.check ≠ .ok () ↔ settings.Orphaned := by
    rw [Ne, settings.check_eq_ok_iff_fit]
    simp only [fit, sized, true_and, not_not]
  refine ⟨rule, refused, fun down orphaned => ?_⟩
  cases broken : settings.check with
  | ok => exact absurd broken (refused.mpr orphaned)
  | error v => exact ⟨v, Driven.up_invalid backend down broken, rule v broken⟩

/-- An interface that is given a netmask, and no address, after it was up. -/
def MemoryLink.orphaned : Driven MemoryLink :=
  Action.run MemoryLink.backend [.up, .down, .set (.netmask "255.255.255.0")]
    ⟨Interface.new "tap0" 0 .tap 0 defaultCapacity, {}⟩

theorem check_refuses_orphans_netmask :
    MemoryLink.orphaned.iface.settings.mac ≠ none ∧ MemoryLink.orphaned.iface.settings.Orphaned
      ∧ ∃ v, Driven.up MemoryLink.backend MemoryLink.orphaned = ⟨.error (.violation v), MemoryLink.orphaned, []⟩
        ∧ v.rule = .requiresIpv4 := by
  have created : Turn.OnlyCreated (Action.run MemoryLink.backend.transcribed
      [.up, .down, .set (.netmask "255.255.255.0")]
      ⟨Interface.new "tap0" 0 .tap 0 defaultCapacity, ⟨{}, []⟩⟩).backend.turns := by
    unfold Turn.OnlyCreated
    decide +kernel
  have committed : MemoryLink.orphaned.iface.settings.mac ≠ none := by decide +kernel
  have orphaned : MemoryLink.orphaned.iface.settings.Orphaned := by
    unfold Settings.Orphaned
    decide +kernel
  have down : MemoryLink.orphaned.iface.isUp = false := by decide +kernel
  unfold MemoryLink.orphaned at committed orphaned down ⊢
  obtain ⟨-, -, refused⟩ := check_refuses_orphans.2 MemoryLink.backend {} "tap0" 0 .tap 0 defaultCapacity
    [.up, .down, .set (.netmask "255.255.255.0")] created
  exact ⟨committed, orphaned, refused down orphaned⟩

end VirtualLink
