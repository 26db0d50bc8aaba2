import VirtualLink.Proofs.Custody
import VirtualLink.Proofs.Failing
import VirtualLink.Proofs.Registry

namespace VirtualLink

open Call Driven

/-- An interface with the link that drives it, beside the registry that its pool comes from. -/
structure Owned where
  registry : Registry
  driven : Driven MemoryLink
  destroyed : Bool := false

/-- What the owner of an interface can call. -/
inductive Use
  | act (action : Action)
  /-- How it would go to close queues that are still held. -/
  | destroy (close : Queues → Except Errno Unit)

namespace Use

/-- The owner of an interface that is destroyed no longer has it. -/
def call : Use → Call Error Owned Answer
  | .act action => (action.call MemoryLink.backend).zoom Owned.driven fun driven owned => { owned with driven }
  | .destroy close => do
    let owned ← Call.get
    ((Interface.destroy owned.driven.iface close).mapError Rejection.error).zoom Owned.registry fun registry owned =>
      { owned with registry }
    Call.modify fun owned => { owned with destroyed := true }
    return .done

/-- The state in which the interface refuses the call, and what it calls it then. -/
def barred : Use → Option (Bool × String)
  | .act (.set setter) => some (true, setter.label)
  | .act .up => some (true, "up")
  | .act .down => some (false, "down")
  | .act (.send _) => some (false, "send")
  | .act .receive => some (false, "receive")
  | .act (.readStat _) | .act (.clearStat _) | .act .snapshot => none
  | .destroy _ => some (true, "destroy")

end Use

/-- The interface holds queues if and only if it is up. -/
def Owned.Held (owned : Owned) : Prop :=
  owned.driven.iface.pool.queues.isSome = owned.driven.iface.isUp

/-- What an owner can get to from a new interface, whatever else becomes of the link and of the registry. -/
inductive Reached : Owned → Prop
  | created (registry : Registry) (link : MemoryLink) (name : String) (id : UInt32) (kind : Kind) (root : RootId)
      (capacity : Nat) : Reached ⟨registry, ⟨Interface.new name id kind root capacity, link⟩, false⟩
  | used {owned : Owned} (use : Use) (earlier : Reached owned) (kept : owned.destroyed = false) :
      Reached (use.call owned).state
  | beside {owned : Owned} (registry : Registry) (link : MemoryLink) (earlier : Reached owned) :
      Reached { owned with registry, driven := { owned.driven with backend := link } }

variable {owned : Owned}

theorem Use.act_ensures {action : Action} {done : Answer → Owned → Prop} {failed : Error → Owned → Prop} :
    (Use.act action).call.Ensures done failed owned
      ↔ (action.call MemoryLink.backend).Ensures (fun answer driven => done answer { owned with driven })
          (fun error driven => failed error { owned with driven }) owned.driven :=
  ensures_zoom ..

theorem Use.destroy_refused (up : owned.driven.iface.isUp = true) (close : Queues → Except Errno Unit) :
    (Use.destroy close).call owned = ⟨.error (owned.driven.iface.stateError "destroy"), owned, []⟩ := by
  have refused : Interface.destroy owned.driven.iface close owned.registry
      = ⟨.error (.interfaceUp owned.driven.iface.name), owned.registry, []⟩ := by
    unfold Interface.destroy
    rw [if_pos up]
    rfl
  simp only [Use.call, Bind.bind, Call.bind, Call.get, zoom, mapError, refused, Interface.stateError, up]
  rfl

theorem Use.destroy_ensures (down : owned.driven.iface.isUp = false) (close : Queues → Except Errno Unit)
    {done : Answer → Owned → Prop} {failed : Error → Owned → Prop}
    (granted : ∀ registry, done .done { owned with registry, destroyed := true }) :
    (Use.destroy close).call.Ensures done failed owned := by
  simp only [Use.call, ensures_bind, ensures_get, ensures_zoom, ensures_mapError, ensures_modify, ensures_pure]
  refine owned.driven.iface.destroy_ensures close (fun up => ?_) fun _ => granted _
  rw [down] at up
  cases up

theorem Reached.held (reached : Reached owned) : owned.Held := by
  induction reached with
  | created => rfl
  | @used owned use _ _ ih =>
    cases use with
    | act action =>
      let start : Driven (Recorded MemoryLink) := ⟨owned.driven.iface, ⟨owned.driven.backend, []⟩⟩
      have before : start.iface.pool.queues.isSome = start.iface.isUp := ih
      have took : Took action start _ (action.call MemoryLink.backend.recorded start).state :=
        Took.of_call before action
      have same : action.call MemoryLink.backend owned.driven = _ :=
        MemoryLink.backend.recorded_mirrors.call action start
      change (action.call MemoryLink.backend owned.driven).state.iface.pool.queues.isSome
        = (action.call MemoryLink.backend owned.driven).state.iface.isUp
      rw [same]
      exact took.held
    | destroy close =>
      cases up : owned.driven.iface.isUp with
      | true =>
        rw [Use.destroy_refused up]
        exact ih
      | false =>
        have granted : (Use.destroy close).call.Ensures (fun _ => Owned.Held) (fun _ => Owned.Held) owned :=
          Use.destroy_ensures up close fun _ => ih
        exact ensures_state_iff.mp granted
  | beside registry link _ ih => exact ih

namespace Driven

variable {σ : Type} {driven : Driven σ}

theorem set_refuses (setter : Setter) (up : driven.iface.isUp = true) :
    (onInterface setter.call : Call Error (Driven σ) Unit) driven
      = ⟨.error (driven.iface.stateError setter.label), driven, []⟩ := by
  simp only [onInterface, zoom, setter.refuses up]

end Driven

namespace Use

theorem refuses {use : Use} {label : String}
    (barred : use.barred = some (owned.driven.iface.isUp, label)) :
    use.call owned = ⟨.error (owned.driven.iface.stateError label), owned, []⟩ := by
  cases use with
  | destroy close =>
    obtain ⟨up, rfl⟩ := Prod.mk.inj (Option.some.inj barred)
    exact destroy_refused up.symm close
  | act action =>
    have whole : action.call MemoryLink.backend owned.driven
        = ⟨.error (owned.driven.iface.stateError label), owned.driven, []⟩ := by
      cases action with
      | set setter =>
        obtain ⟨up, rfl⟩ := Prod.mk.inj (Option.some.inj barred)
        exact bind_refused (set_refuses setter up.symm) _
      | up =>
        obtain ⟨up, rfl⟩ := Prod.mk.inj (Option.some.inj barred)
        exact bind_refused (up_refuses up.symm) _
      | down =>
        obtain ⟨down, rfl⟩ := Prod.mk.inj (Option.some.inj barred)
        exact bind_refused (down_refuses down.symm) _
      | send packet =>
        obtain ⟨down, rfl⟩ := Prod.mk.inj (Option.some.inj barred)
        exact bind_refused (send_refuses down.symm packet) _
      | receive =>
        obtain ⟨down, rfl⟩ := Prod.mk.inj (Option.some.inj barred)
        exact bind_refused (receive_refuses down.symm) _
      | readStat | clearStat | snapshot => cases barred
    simp only [call, zoom, whole]

theorem timely (use : Use) (held : owned.Held) (free : ∀ label, use.barred ≠ some (owned.driven.iface.isUp, label)) :
    use.call.Ensures (fun _ _ => True) (fun error _ => error.Timely) owned := by
  have other {state : Bool} {label : String} (known : use.barred = some (state, label)) :
      owned.driven.iface.isUp = !state :=
    Bool.eq_not.mpr fun same => free label (same ▸ known)
  have orderly := MemoryLink.backend_orderly
  cases use with
  | destroy close => exact destroy_ensures (other rfl) close fun _ => trivial
  | act action =>
    refine act_ensures.mpr ?_
    have queues (up : owned.driven.iface.isUp = true) : ∃ queues, owned.driven.iface.pool.queues = some queues :=
      Option.isSome_iff_exists.mp (held.trans up)
    cases action with
    | set setter =>
      have violation := setter.call_violation (other rfl)
      refine (ensures_map _ _).mpr ((ensures_onInterface _).mpr (violation.mono (fun _ _ _ => trivial) ?_))
      rintro _ _ ⟨v, rfl⟩
      simp [Error.Timely, Error.kind]
    | up => exact (ensures_map _ _).mpr (orderly.up (other rfl))
    | down => exact (ensures_map _ _).mpr (orderly.down (other rfl))
    | send packet =>
      obtain ⟨queues, held⟩ := queues (other rfl)
      exact (ensures_map _ _).mpr (send_timely (other rfl) held packet)
    | receive =>
      obtain ⟨queues, held⟩ := queues (other rfl)
      exact (ensures_map _ _).mpr (receive_timely (other rfl) held)
    | readStat name => exact (orderly.readCount name).map _ _
    | clearStat name => exact (orderly.clearStat name).map _ _
    | snapshot => exact orderly.snapshot.map _ _

end Use

/-- An interface refuses a call for the order of the calls if and only if it is in the wrong state for it, and then
does nothing else. A setter of one field that is refused for its value does nothing either, and one that is granted
changes that field. -/
theorem calls_in_sequence (reached : Reached owned) :
    (∀ use : Use, (∃ error, (use.call owned).result = .error error ∧ error.kind = .state)
        ↔ ∃ label, use.barred = some (owned.driven.iface.isUp, label))
      ∧ (∀ (use : Use) label, use.barred = some (owned.driven.iface.isUp, label) →
        use.call owned = ⟨.error (owned.driven.iface.stateError label), owned, []⟩)
      ∧ (∀ setter : Setter, (∀ given, setter ≠ .entry given) →
        ((Use.act (.set setter)).call).Ensures
          (fun _ after => ∃ iface, setter.Changed owned.driven.iface iface
            ∧ after = { owned with driven := { owned.driven with iface } })
          (fun _ after => after = owned) owned) := by
  have refuses (use : Use) (label : String) (barred : use.barred = some (owned.driven.iface.isUp, label)) :
      use.call owned = ⟨.error (owned.driven.iface.stateError label), owned, []⟩ := Use.refuses barred
  refine ⟨fun use => ⟨?_, ?_⟩, refuses, fun setter single => ?_⟩
  · rintro ⟨error, failed, state⟩
    by_cases barred : ∃ label, use.barred = some (owned.driven.iface.isUp, label)
    · exact barred
    · exact absurd state ((use.timely reached.held (not_exists.mp barred)).of_error failed)
  · rintro ⟨label, barred⟩
    exact ⟨_, congrArg Reply.result (refuses use label barred), rfl⟩
  · cases up : owned.driven.iface.isUp with
    | true =>
      have barred : (Use.act (.set setter)).barred = some (owned.driven.iface.isUp, setter.label) := by
        rw [up]
        rfl
      unfold Ensures
      rw [refuses _ _ barred]
    | false =>
      refine Use.act_ensures.mpr ((ensures_map _ _).mpr ((ensures_onInterface _).mpr ?_))
      exact setter.call_ensures up single (fun _ => rfl) fun iface changed => ⟨iface, changed, rfl⟩

/-- An interface that was brought up on a link of its own. -/
def Owned.raised : Owned :=
  ((Use.act .up).call ⟨{}, ⟨Interface.new "tap0" 0 .tap 0 defaultCapacity, {}⟩, false⟩).state

/-- The address is not even looked at. -/
theorem calls_in_sequence_raised :
    Owned.raised.driven.iface.isUp = true
      ∧ (Use.act (.set (.mac "no address"))).call Owned.raised
        = ⟨.error (Owned.raised.driven.iface.stateError "set MAC address"), Owned.raised, []⟩
      ∧ (Use.destroy fun _ => .ok ()).call Owned.raised
        = ⟨.error (Owned.raised.driven.iface.stateError "destroy"), Owned.raised, []⟩ := by
  have reached : Reached Owned.raised := .used _ (.created {} {} "tap0" 0 .tap 0 defaultCapacity) rfl
  have up : Owned.raised.driven.iface.isUp = true := by decide +kernel
  have bars (label : String) : some (true, label) = some (Owned.raised.driven.iface.isUp, label) := by rw [up]
  obtain ⟨-, refuses, -⟩ := calls_in_sequence reached
  exact ⟨up, refuses _ _ (bars "set MAC address"), refuses _ _ (bars "destroy")⟩

end VirtualLink
