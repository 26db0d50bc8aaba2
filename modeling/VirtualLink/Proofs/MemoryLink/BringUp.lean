import VirtualLink.Proofs.Plan

namespace VirtualLink

namespace Interface

/-- The interface with a scratch buffer of this size. -/
def reserved (iface : Interface) (size : Nat) : Interface :=
  { iface with pool := { iface.pool with scratch := List.replicate size 0 } }

def holding (iface : Interface) (queues : Option Queues) : Interface :=
  { iface with pool := { iface.pool with queues } }

/-- The interface after a bring-up by this plan. -/
def raised (iface : Interface) (plan : Plan) (origin : Origin) : Interface :=
  { iface with
    settings := { iface.settings with mac := some plan.mac, mtu := plan.mtu }
    restore := if origin = .attached then some ⟨plan.previousMac, plan.previousMtu⟩ else none
    isUp := true }

end Interface

/-- The bytes that the frames of a bring-up by this plan are read into. -/
def Plan.room (plan : Plan) : Nat :=
  plan.mtu.toNat + frameOverhead

namespace MemoryLink

open Driven

variable {iface : Interface} {link : MemoryLink}

/-- What a bring-up makes of the link once it is open. -/
def planFor (iface : Interface) (link : MemoryLink) : Plan where
  previousMtu := link.state.mtu
  previousMac := if iface.kind.isTap then some link.state.mac else none
  mac := chosenMac iface
  mtu := if link.origin = .attached ∧ ¬ iface.mtuChosen then link.state.mtu else iface.settings.mtu

theorem prepare_ensures (there : link.state.exists? = true) {done : Plan → Driven MemoryLink → Prop}
    {failed : Error → Driven MemoryLink → Prop} :
    (prepare backend link.origin (chosenMac iface)).Ensures done failed ⟨iface, link⟩
      ↔ if (planFor iface link).room > iface.pool.capacity then
          failed (.poolExhausted (planFor iface link).room iface.pool.capacity) ⟨iface, link⟩
        else done (planFor iface link) ⟨iface.reserved (planFor iface link).room, link⟩ := by
  simp only [prepare, Pool.reserve, Call.ensures_bind, Call.ensures_ite, Call.ensures_log, Call.ensures_get,
    Call.ensures_fail, Call.ensures_modify, Call.ensures_map, Call.ensures_pure, ensures_iface?, ensures_onBackend,
    ensures_onPool, mtu_ensures _ there, mac_ensures _ there, planFor, Plan.room]
  by_cases adopts : link.origin = .attached ∧ ¬ iface.mtuChosen <;> by_cases tap : iface.kind.isTap
  · simp only [if_pos adopts, if_pos tap]
    rfl
  · simp only [if_pos adopts, if_neg tap]
    rfl
  · simp only [if_neg adopts, if_pos tap]
    rfl
  · simp only [if_neg adopts, if_neg tap]
    rfl

theorem commit_ensures (there : link.state.exists? = true) {done : Plan → Driven MemoryLink → Prop}
    {failed : Setback → Driven MemoryLink → Prop}
    (exhausted : (planFor iface link).room > iface.pool.capacity →
      failed ⟨.poolExhausted (planFor iface link).room iface.pool.capacity, []⟩ ⟨iface, link⟩)
    (stopped : (planFor iface link).room ≤ iface.pool.capacity → ∀ before step after,
      (planFor iface link).steps iface.name iface.settings = before ++ step :: after →
      link.fault = some step.request.op → (∀ earlier ∈ before, link.fault ≠ some earlier.request.op) →
      failed ⟨refusal step.request.op iface.name, (before.filterMap Step.undo).reverse⟩
        ⟨iface.reserved (planFor iface link).room, (link.granted (before.map Step.request)).disarmed⟩)
    (brought : (planFor iface link).room ≤ iface.pool.capacity →
      (∀ step ∈ (planFor iface link).steps iface.name iface.settings, link.fault ≠ some step.request.op) →
      done (planFor iface link) ⟨iface.reserved (planFor iface link).room,
        link.granted (((planFor iface link).steps iface.name iface.settings).map Step.request)⟩) :
    (commit backend link.origin (chosenMac iface)).Ensures done failed ⟨iface, link⟩ := by
  simp only [commit, unstarted, Call.ensures_bind, Call.ensures_mapError, prepare_ensures there, ensures_iface?,
    ensures_onBackend, Call.ensures_pure]
  split
  · rename_i short
    exact exhausted short
  · rename_i room
    refine runSteps_ensures _ _ _ there (brought (Nat.not_lt.mp room)) ?_
    intro before step after steps refused earlier
    have undo := stopped (Nat.not_lt.mp room) before step after steps refused earlier
    rwa [← List.append_nil (before.filterMap Step.undo).reverse] at undo

theorem releaseQueues_ensures {queues : Queues} (held : iface.pool.queues = some queues)
    {done : Unit → Driven MemoryLink → Prop} {failed : Error → Driven MemoryLink → Prop} :
    (releaseQueues backend).Ensures done failed ⟨iface, link⟩
      ↔ if link.fault = some .release then
          failed (refusal .release iface.name) ⟨iface.holding none, link.released queues⟩
        else done () ⟨iface.holding none, link.released queues⟩ := by
  simp only [releaseQueues, Call.ensures_bind, ensures_iface?, held, ensures_update, ensures_onBackend,
    backend_release, release_ensures]
  rfl

theorem rollBack_ensures {queues : Queues} {undo : List Request} (held : iface.pool.queues = some queues)
    (granted : undo = [] ∨ link.state.exists? = true ∧ link.fault = none) {ε : Type}
    {done : Unit → Driven MemoryLink → Prop} {failed : ε → Driven MemoryLink → Prop} :
    (rollBack backend undo).Ensures done failed ⟨iface, link⟩
      ↔ done () ⟨iface.holding none, (link.granted undo).released queues⟩ := by
  have takenBack {done : Unit → MemoryLink → Prop} {failed : ε → MemoryLink → Prop} :
      (backend.takeBack iface.name undo).Ensures done failed link ↔ done () (link.granted undo) := by
    rcases granted with rfl | ⟨there, armless⟩
    · exact Iff.rfl
    · exact takeBack_ensures _ _ there armless
  simp only [rollBack, Call.ensures_bind, ensures_iface?, ensures_onBackend, takenBack, Call.ensures_attempt,
    releaseQueues_ensures held, Call.ensures_pure, Call.ensures_log, ite_self]

theorem opened_origin (kind : Kind) : (link.opened kind).origin = link.origin := by
  unfold opened reopened origin
  split <;> simp_all [record, connect]

theorem opened_attached (kind : Kind) : (link.opened kind).attached = link.attached := by
  unfold opened reopened
  split <;> rfl

theorem opened_fault (kind : Kind) : (link.opened kind).fault = link.fault := by
  unfold opened reopened
  split <;> rfl

/-- The ways in which a bring-up can end. Of the steps, those before the first that was told to fail are granted,
and then taken back. -/
theorem up_ensures (there : (link.opened iface.kind).state.exists? = true) (down : iface.isUp = false)
    {done : Unit → Driven MemoryLink → Prop} {failed : Error → Driven MemoryLink → Prop}
    (invalid : ∀ v, iface.settings.check = .error v → failed (.violation v) ⟨iface, link⟩)
    (unopened : link.fault = some .acquire → failed (refusal .acquire iface.name) ⟨iface, link.disarmed⟩)
    (exhausted : (planFor iface (link.opened iface.kind)).room > iface.pool.capacity →
      failed (.poolExhausted (planFor iface (link.opened iface.kind)).room iface.pool.capacity)
        ⟨iface.holding none, (link.opened iface.kind).released link.newQueues⟩)
    (stopped : ∀ before step after,
      (planFor iface (link.opened iface.kind)).steps iface.name iface.settings = before ++ step :: after →
      link.fault = some step.request.op → (∀ earlier ∈ before, link.fault ≠ some earlier.request.op) →
      failed (refusal step.request.op iface.name)
        ⟨(iface.reserved (planFor iface (link.opened iface.kind)).room).holding none,
          (((link.opened iface.kind).granted (before.map Step.request)).disarmed.granted
            (before.filterMap Step.undo).reverse).released link.newQueues⟩)
    (brought : iface.settings.check = .ok () → link.fault ≠ some .acquire →
      (planFor iface (link.opened iface.kind)).room ≤ iface.pool.capacity →
      (∀ step ∈ (planFor iface (link.opened iface.kind)).steps iface.name iface.settings,
        link.fault ≠ some step.request.op) →
      done ()
        ⟨((iface.reserved (planFor iface (link.opened iface.kind)).room).holding (some link.newQueues)).raised
            (planFor iface (link.opened iface.kind)) link.origin,
          (link.opened iface.kind).granted
            (((planFor iface (link.opened iface.kind)).steps iface.name iface.settings).map Step.request)⟩) :
    (up backend).Ensures done failed ⟨iface, link⟩ := by
  simp only [up, Call.ensures_bind, ensures_iface?, down, Bool.false_eq_true, if_false]
  cases valid : iface.settings.check with
  | error v => exact invalid v valid
  | ok =>
    simp only [Call.ensures_check_ok, Call.ensures_log, bringUp, Call.ensures_bind, ensures_iface?,
      Call.ensures_attempt, ensures_onBackend, backend_acquire, acquire_ensures]
    split
    · rename_i refused
      exact unopened refused
    · rename_i opens
      simp only [Call.ensures_bind, ensures_update, Call.ensures_attempt]
      have origin : link.newQueues.origin = (link.opened iface.kind).origin := (opened_origin _).symm
      rw [origin]
      refine commit_ensures there ?_ ?_ ?_
      · intro short
        simp only [Call.ensures_bind, Call.ensures_log]
        exact (rollBack_ensures rfl (.inl rfl)).mpr (exhausted short)
      · intro _ before step after steps refused earlier
        rw [opened_fault] at refused
        have granted := fun e member => opened_fault iface.kind ▸ earlier e member
        have stays : ((link.opened iface.kind).granted (before.map Step.request)).disarmed.state.exists? = true :=
          (granted_exists _).trans there
        simp only [Call.ensures_bind, Call.ensures_log]
        exact (rollBack_ensures rfl (.inr ⟨stays, rfl⟩)).mpr (stopped before step after steps refused granted)
      · intro room granted
        simp only [Call.ensures_pure, Call.ensures_bind, Call.ensures_log, ensures_update]
        rw [opened_origin]
        exact brought valid opens room fun step member => opened_fault iface.kind ▸ granted step member

/-- A link that was attached and is not there cannot be brought up. -/
theorem up_absent (absent : (link.opened iface.kind).state.exists? = false) (down : iface.isUp = false) :
    (up backend).Ensures (fun _ _ => False) (fun _ _ => True) ⟨iface, link⟩ := by
  simp only [up, Call.ensures_bind, ensures_iface?, down, Bool.false_eq_true, if_false]
  cases iface.settings.check with
  | error v => exact trivial
  | ok =>
    simp only [Call.ensures_check_ok, Call.ensures_log, bringUp, Call.ensures_bind, ensures_iface?,
      Call.ensures_attempt, ensures_onBackend, backend_acquire, acquire_ensures]
    split
    · exact trivial
    · simp only [Call.ensures_bind, ensures_update, Call.ensures_attempt, commit, unstarted, Call.ensures_mapError,
        prepare, backend, requireLink, ensures_iface?, ensures_onBackend, Call.ensures_get, Call.ensures_ite, absent,
        Bool.false_eq_true, not_false_eq_true, if_true, Call.ensures_fail, Call.ensures_log]
      exact (rollBack_ensures rfl (.inl rfl)).mpr trivial

end MemoryLink

end VirtualLink
