import VirtualLink.Proofs.Recorded
import VirtualLink.Proofs.Registry

namespace VirtualLink

open Call Driven

variable {ε σ : Type} {identity : Interface.Identity}

/-- From what an interface holds before some exchanges to what it holds after them, all of them about its own link.
Queues are asked for while none are held only, and those that are held are the only ones that are returned. -/
inductive Custody (identity : Interface.Identity) : Option Queues → List Exchange → Option Queues → Prop
  | idle (held : Option Queues) : Custody identity held [] held
  | asked {answer after : Option Queues} {rest : List Exchange} (later : Custody identity answer rest after) :
      Custody identity none (.asked identity.name identity.kind answer :: rest) after
  | returned {queues : Queues} {after : Option Queues} {rest : List Exchange}
      (later : Custody identity none rest after) :
      Custody identity (some queues) (.returned identity.name queues :: rest) after

theorem Custody.append {before held after : Option Queues} {first second : List Exchange}
    (earlier : Custody identity before first held) (later : Custody identity held second after) :
    Custody identity before (first ++ second) after := by
  induction earlier with
  | idle => exact later
  | asked _ ih => exact .asked (ih later)
  | returned _ ih => exact .returned (ih later)

namespace Exchange

/-- The queues that the backend gave, in order. -/
def given (trace : List Exchange) : List Queues :=
  trace.filterMap fun
    | .asked _ _ answer => answer
    | .returned .. => none

/-- The queues that the backend got back, in order. -/
def takenBack (trace : List Exchange) : List Queues :=
  trace.filterMap fun
    | .asked .. => none
    | .returned _ queues => some queues

end Exchange

/-- What was held or given is returned or still held, each once and in order. -/
theorem Custody.given_eq {before after : Option Queues} {trace : List Exchange}
    (custody : Custody identity before trace after) :
    before.toList ++ Exchange.given trace = Exchange.takenBack trace ++ after.toList := by
  induction custody with
  | idle held => simp [Exchange.given, Exchange.takenBack]
  | @asked answer after rest later ih =>
    cases answer <;> simpa [Exchange.given, Exchange.takenBack] using ih
  | returned later ih => simpa [Exchange.given, Exchange.takenBack] using ih

/-- What an action exchanges about the link of its interface, by what is held before it, whether it succeeds, and what
is held after it. -/
inductive Exchanged (identity : Interface.Identity) :
    Action → Option Queues → Bool → List Exchange → Option Queues → Prop
  | nothing {action : Action} {held : Option Queues} {succeeded : Bool} (raise : action = .up → succeeded = false)
    (lower : action = .down → held = none) : Exchanged identity action held succeeded [] held
  | refused : Exchanged identity .up none false [.asked identity.name identity.kind none] none
  | rolledBack (queues : Queues) : Exchanged identity .up none false
      [.asked identity.name identity.kind (some queues), .returned identity.name queues] none
  | raised (queues : Queues) : Exchanged identity .up none true
      [.asked identity.name identity.kind (some queues)] (some queues)
  | lowered (queues : Queues) (succeeded : Bool) : Exchanged identity .down (some queues) succeeded
      [.returned identity.name queues] none

theorem Exchanged.custody {action : Action} {held after : Option Queues} {succeeded : Bool} {trace : List Exchange}
    (exchanged : Exchanged identity action held succeeded trace after) : Custody identity held trace after := by
  cases exchanged with
  | nothing => exact .idle held
  | refused => exact .asked (.idle none)
  | rolledBack queues => exact .asked (.returned (.idle none))
  | raised queues => exact .asked (.idle (some queues))
  | lowered queues => exact .returned (.idle none)

theorem Exchanged.none_of_down {held after : Option Queues} {succeeded : Bool} {trace : List Exchange}
    (exchanged : Exchanged identity .down held succeeded trace after) : after = none := by
  cases exchanged with
  | nothing _ lower => exact lower rfl
  | lowered => rfl

namespace Holding

variable {backend : Backend σ} {up : Bool} {trace : List Exchange} {driven : Driven (Recorded σ)}

/-- A bring-up keeps the queues that it is given, or returns them. -/
theorem bringUp (before : Holding identity none up trace driven) (mac : Mac) :
    (Driven.bringUp backend.recorded mac).Ensures
      (fun _ after => ∃ queues,
        Holding identity (some queues) up (trace ++ [.asked identity.name identity.kind (some queues)]) after)
      (fun _ after => ∃ exchanges, Exchanged identity .up none false exchanges none
        ∧ Holding identity none up (trace ++ exchanges) after) driven := by
  have named : driven.iface.name = identity.name := congrArg Interface.Identity.name before.identity
  have kinded : driven.iface.kind = identity.kind := congrArg Interface.Identity.kind before.identity
  simp only [Driven.bringUp, ensures_bind, ensures_iface?, ensures_attempt, named, kinded]
  refine (before.acquire _ _).mono (fun queues asked given => ?_) fun error asked refused => ?_
  · simp only [ensures_bind, ensures_log, ensures_update, ensures_attempt]
    have held : Holding identity (some queues) up (trace ++ [.asked identity.name identity.kind (some queues)])
        { asked with iface := { asked.iface with pool := { asked.iface.pool with queues := some queues } } } :=
      ⟨given.identity, rfl, given.isUp, given.trace⟩
    refine (commit _ _ _ held).mono (fun plan after still => ⟨queues, still⟩) fun setback after still => ?_
    simp only [ensures_bind, ensures_log]
    refine (still.rollBack setback.undo).mono (fun _ undone returned => ?_) fun _ _ never => never.elim
    rw [List.append_assoc] at returned
    exact ⟨_, .rolledBack queues, returned⟩
  · exact ⟨_, .refused, refused⟩

end Holding

/-- An action takes an interface that holds queues if and only if it is up to one that does so again. -/
structure Took (action : Action) (start : Driven (Recorded σ)) (succeeded : Bool) (after : Driven (Recorded σ)) :
    Prop where
  exchanged : ∃ exchanges, after.backend.trace = start.backend.trace ++ exchanges
    ∧ Exchanged start.iface.identity action start.iface.pool.queues succeeded exchanges after.iface.pool.queues
  identity : after.iface.identity = start.iface.identity
  held : after.iface.pool.queues.isSome = after.iface.isUp

namespace Took

variable {backend : Backend σ} {start : Driven (Recorded σ)}

theorem of_keeps {action : Action} (held : start.iface.pool.queues.isSome = start.iface.isUp)
    (raise : action ≠ .up) (lower : action = .down → start.iface.pool.queues = none)
    (keeps : (action.call backend.recorded).Keeps
      (Holding start.iface.identity start.iface.pool.queues start.iface.isUp start.backend.trace)) :
    (action.call backend.recorded).Ensures (fun _ => Took action start true) (fun _ => Took action start false)
      start := by
  have took (succeeded : Bool) (after : Driven (Recorded σ))
      (still : Holding start.iface.identity start.iface.pool.queues start.iface.isUp start.backend.trace after) :
      Took action start succeeded after := by
    refine ⟨⟨[], by rw [still.trace, List.append_nil], ?_⟩, still.identity, by rw [still.queues, still.isUp, held]⟩
    rw [still.queues]
    exact .nothing (fun same => absurd same raise) lower
  exact (keeps start ⟨rfl, rfl, rfl, rfl⟩).mono (fun _ => took true) fun _ => took false

theorem up (held : start.iface.pool.queues.isSome = start.iface.isUp) :
    (Driven.up backend.recorded).Ensures (fun _ => Took .up start true) (fun _ => Took .up start false) start := by
  have untouched : Took .up start false start :=
    ⟨⟨[], (List.append_nil _).symm, .nothing (fun _ => rfl) (by simp)⟩, rfl, held⟩
  simp only [Driven.up, ensures_bind, ensures_iface?]
  cases isUp : start.iface.isUp with
  | true => exact untouched
  | false =>
    have free : start.iface.pool.queues = none := Option.not_isSome_iff_eq_none.mp (by simp [held, isUp])
    simp only [Bool.false_eq_true, if_false]
    cases start.iface.settings.check with
    | error v => exact untouched
    | ok =>
      simp only [ensures_check_ok, ensures_log, ensures_bind]
      have before : Holding start.iface.identity none false start.backend.trace start := ⟨rfl, free, isUp, rfl⟩
      refine (before.bringUp _).mono (fun answer after raised => ?_) fun error after failed => ?_
      · obtain ⟨queues, raised⟩ := raised
        simp only [ensures_bind, ensures_update, ensures_log]
        refine ⟨⟨_, raised.trace, ?_⟩, raised.identity, ?_⟩
        · change Exchanged _ .up _ true _ after.iface.pool.queues
          rw [free, raised.queues]
          exact .raised queues
        · change after.iface.pool.queues.isSome = true
          rw [raised.queues]
          rfl
      · obtain ⟨exchanges, exchanged, failed⟩ := failed
        refine ⟨⟨exchanges, failed.trace, ?_⟩, failed.identity, ?_⟩
        · rw [free, failed.queues]
          exact exchanged
        · rw [failed.queues, failed.isUp]
          rfl

theorem down (held : start.iface.pool.queues.isSome = start.iface.isUp) :
    (Driven.down backend.recorded).Ensures (fun _ => Took .down start true) (fun _ => Took .down start false)
      start := by
  cases isUp : start.iface.isUp with
  | false =>
    have free : start.iface.pool.queues = none := Option.not_isSome_iff_eq_none.mp (by simp [held, isUp])
    exact down_refused isUp ⟨⟨[], (List.append_nil _).symm, .nothing (by simp) fun _ => free⟩, rfl, held⟩
  | true =>
    obtain ⟨queues, given⟩ := Option.isSome_iff_exists.mp (held.trans isUp)
    have before : Holding start.iface.identity (some queues) true start.backend.trace start := ⟨rfl, given, isUp, rfl⟩
    let Shut : Driven (Recorded σ) → Prop :=
      Holding start.iface.identity none false (start.backend.trace ++ [.returned start.iface.name queues])
    have lowered (succeeded : Bool) (after : Driven (Recorded σ)) (shut : Shut after) :
        Took .down start succeeded after := by
      refine ⟨⟨_, shut.trace, ?_⟩, shut.identity, by rw [shut.queues, shut.isUp]; rfl⟩
      rw [given, shut.queues]
      exact .lowered queues succeeded
    have closed : (Driven.down backend.recorded).Ensures (fun _ => Shut) (fun _ => Shut) start :=
      Holding.retained.down (fun _ still => Holding.releaseQueues still)
        (fun _ _ shut => ⟨shut.identity, shut.queues, rfl, shut.trace⟩) isUp before
    exact closed.mono (fun _ => lowered true) fun _ => lowered false

/-- What an action exchanges about queues, whatever the backend answers. -/
theorem call (held : start.iface.pool.queues.isSome = start.iface.isUp) :
    ∀ action : Action, (action.call backend.recorded).Ensures (fun _ => Took action start true)
      (fun _ => Took action start false) start := by
  intro action
  cases action with
  | up => exact (ensures_map _ _).mpr (up held)
  | down => exact (ensures_map _ _).mpr (down held)
  | receive =>
    refine of_keeps held (by simp) (by simp) (Keeps.map _ (Lasting.receive fun driven queues _ _ before => ?_))
    exact (Holding.unnoted (backend.read queues.rx _) driven before).mono
      (fun _ _ still => ⟨still.identity, still.queues, still.isUp, still.trace⟩) fun _ _ still => still
  | _ => exact of_keeps held (by simp) (by simp) (Holding.lasting.call _ (by simp) (by simp) (by simp))

theorem of_call (held : start.iface.pool.queues.isSome = start.iface.isUp) (action : Action) :
    Took action start (action.call backend.recorded start).result.isOk
      (action.call backend.recorded start).state := by
  have took : (action.call backend.recorded).Ensures _ _ start := call held action
  cases answered : (action.call backend.recorded start).result with
  | ok => exact took.of_ok answered
  | error => exact took.of_error answered

end Took

/-- Between its actions an interface holds queues if and only if it is up, and all others were returned. -/
structure InCustody (driven : Driven (Recorded σ)) : Prop where
  held : driven.iface.pool.queues.isSome = driven.iface.isUp
  custody : Custody driven.iface.identity none driven.backend.trace driven.iface.pool.queues

namespace InCustody

variable {backend : Backend σ} {driven : Driven (Recorded σ)}

theorem step (kept : InCustody driven) (action : Action) :
    InCustody (action.call backend.recorded driven).state := by
  obtain ⟨⟨exchanges, trace, exchanged⟩, same, held⟩ := Took.of_call kept.held action
  refine ⟨held, ?_⟩
  rw [trace, same]
  exact kept.custody.append exchanged.custody

theorem run (kept : InCustody driven) (actions : List Action) :
    InCustody (Action.run backend.recorded actions driven) := by
  induction actions generalizing driven with
  | nil => exact kept
  | cons action rest ih => exact ih (kept.step action)

/-- An interface that is given up returns what it holds. -/
theorem drop (kept : InCustody driven) (registry : Registry) :
    (Interface.drop backend.recorded driven.iface : Call ε (Registry × Recorded σ) Unit).Ensures
      (fun _ after => Custody driven.iface.identity none after.2.trace none)
      (fun _ after => Custody driven.iface.identity none after.2.trace none) (registry, driven.backend) := by
  let Settled (trace : List Exchange) : Prop := Custody driven.iface.identity none trace none
  have dropPool (registry : Registry) (recorded : Recorded σ) (all : Settled recorded.trace) :
      ((Registry.dropPool driven.iface.pool : Call ε Registry Unit).zoom Prod.fst
        fun registry (_, state) => (registry, state)).Ensures
          (fun _ (after : Registry × Recorded σ) => Settled after.2.trace)
          (fun _ (after : Registry × Recorded σ) => Settled after.2.trace) (registry, recorded) := by
    simp only [Registry.dropPool, ensures_zoom, ensures_bind, ensures_modify, ensures_get, ensures_log]
    exact all
  have down : Settled (Driven.down backend.recorded driven).state.backend.trace := by
    have lowered (succeeded : Bool) (after : Driven (Recorded σ)) (took : Took .down driven succeeded after) :
        Settled after.backend.trace := by
      obtain ⟨exchanges, trace, exchanged⟩ := took.exchanged
      have whole : Settled (driven.backend.trace ++ exchanges) :=
        kept.custody.append (exchanged.none_of_down ▸ exchanged.custody)
      exact trace ▸ whole
    exact ensures_state_iff.mp ((Took.down kept.held).mono (fun _ => lowered true) fun _ => lowered false)
  unfold Interface.drop
  split
  · simp only [ensures_bind, ensures_get, ensures_logAll, ensures_modify]
    split
    · exact dropPool registry _ down
    · exact dropPool registry _ down
  · rename_i down
    have free : driven.iface.pool.queues = none := Option.not_isSome_iff_eq_none.mp (by rw [kept.held]; exact down)
    have custody := kept.custody
    rw [free] at custody
    exact dropPool registry driven.backend custody

end InCustody

/-- No queues are lost and none are returned twice, on any backend, however its calls fail. What the backend is
asked for and gets back is told by a record, which changes nothing else; all of it is about the link of the name. -/
theorem queues_in_custody (backend : Backend σ) (state : σ) (name : String) (id : UInt32) (kind : Kind)
    (root : RootId) (capacity : Nat) (actions : List Action) (registry : Registry) :
    let identity : Interface.Identity := ⟨name, id, kind, root⟩
    let start : Driven (Recorded σ) := ⟨Interface.new name id kind root capacity, ⟨state, []⟩⟩
    let driven := Action.run backend.recorded actions start
    let dropped := (Interface.drop backend.recorded driven.iface : Call Empty (Registry × Recorded σ) Unit)
      (registry, driven.backend)
    (driven.seen Recorded.state = Action.run backend actions (start.seen Recorded.state)
        ∧ driven.iface.identity = identity
        ∧ driven.iface.pool.queues.isSome = driven.iface.isUp
        ∧ Custody identity none driven.backend.trace driven.iface.pool.queues)
      ∧ (∀ action, Took action driven (action.call backend.recorded driven).result.isOk
          (action.call backend.recorded driven).state)
      ∧ (∀ close, (Interface.destroy driven.iface close registry).result = .ok () →
          driven.iface.pool.queues = none ∧ Custody identity none driven.backend.trace none
            ∧ Interface.destroy driven.iface close = Interface.destroy driven.iface fun _ => .ok ())
      ∧ Interface.drop backend driven.iface (registry, driven.backend.state)
          = ⟨dropped.result, (dropped.state.1, dropped.state.2.state), dropped.events⟩
      ∧ Custody identity none dropped.state.2.trace none
      ∧ Exchange.given dropped.state.2.trace = Exchange.takenBack dropped.state.2.trace := by
  intro identity start driven dropped
  have same := backend.recorded_mirrors
  have kept : InCustody driven := InCustody.run ⟨rfl, .idle none⟩ actions
  have identified : driven.iface.identity = identity := identity_run actions start
  have custody := kept.custody
  have last : Custody driven.iface.identity none dropped.state.2.trace none := by
    have returned : (Interface.drop backend.recorded driven.iface : Call Empty _ Unit).Ensures _ _
      (registry, driven.backend) := kept.drop registry
    exact ensures_state_iff.mp returned
  rw [identified] at custody last
  refine ⟨⟨(same.run actions start).symm, identified, kept.held, custody⟩, Took.of_call kept.held, ?_,
    same.drop driven.iface (registry, driven.backend), last, ?_⟩
  · intro close destroyed
    have free : driven.iface.pool.queues = none := by
      rw [← Option.not_isSome_iff_eq_none, kept.held]
      intro up
      simp [Interface.destroy, up, Call.fail] at destroyed
    exact ⟨free, free ▸ custody, Interface.destroy_of_free free close⟩
  · simpa using last.given_eq

end VirtualLink
