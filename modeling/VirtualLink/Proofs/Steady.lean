import VirtualLink.Proofs.TearDown

namespace VirtualLink

open Call Driven

variable {ε σ α : Type}

/-- Steps come one after the other, with whatever there is to take back. -/
theorem Backend.runSteps_append {backend : Backend σ} {name : String} {undo : List Request} {first second : List Step}
    {done : Unit → σ → Prop} {failed : Setback → σ → Prop} {state : σ}
    (ensures : (backend.runSteps name undo first).Ensures
      (fun _ between => ∀ undo, (backend.runSteps name undo second).Ensures done failed between) failed state) :
    (backend.runSteps name undo (first ++ second)).Ensures done failed state := by
  induction first generalizing undo state with
  | nil => exact ensures undo
  | cons step rest ih =>
    simp only [List.cons_append, runSteps, ensures_bind, ensures_mapError] at ensures ⊢
    exact ensures.mono (fun _ between later => ih later) fun _ _ refused => refused

/-- What a bring-up takes from the interface is as it was when it began. -/
structure Steady (iface : Interface) (driven : Driven σ) : Prop where
  name : driven.iface.name = iface.name
  settings : driven.iface.settings = iface.settings
  isUp : driven.iface.isUp = iface.isUp

namespace Driven

variable {backend : Backend σ} {iface : Interface} {driven : Driven σ}

theorem onBackend_steady (call : Call ε σ α) : (onBackend call).Keeps (Steady iface) := by
  intro driven before
  rw [ensures_onBackend]
  unfold Ensures
  split <;> exact ⟨before.name, before.settings, before.isUp⟩

theorem prepare_steady (origin : Origin) (mac : Mac) : (prepare backend origin mac).Keeps (Steady iface) :=
  prepare_keeps (fun _ => onBackend_steady _) (fun _ => onBackend_steady _)
    (fun _ _ before => ⟨before.name, before.settings, before.isUp⟩) origin mac

theorem rollBack_steady (undo : List Request) :
    (rollBack backend undo : Call ε (Driven σ) Unit).Keeps (Steady iface) := by
  have release : (releaseQueues backend).Keeps (Steady iface) :=
    releaseQueues_keeps (fun _ _ => onBackend_steady _) fun _ before => ⟨before.name, before.settings, before.isUp⟩
  exact rollBack_keeps (fun _ _ => onBackend_steady _) release undo

section

variable {held : σ → Prop}
  (steps : ∀ (plan : Plan) state, (backend.runSteps iface.name [] (plan.steps iface.name iface.settings)).Ensures
    (fun _ => held) (fun _ _ => True) state)

include steps

theorem commit_steady (origin : Origin) (mac : Mac) (before : Steady iface driven) :
    (commit backend origin mac).Ensures (fun _ after => Steady iface after ∧ held after.backend)
      (fun _ => Steady iface) driven := by
  refine (ensures_bind _ _).mpr ((ensures_mapError _ _).mpr ?_)
  refine (prepare_steady origin mac driven before).mono (fun plan ready steady => ?_) fun _ _ steady => steady
  simp only [ensures_bind, ensures_iface?, ensures_onBackend, ensures_pure, steady.name, steady.settings]
  have still (state : σ) : Steady iface { ready with backend := state } := ⟨steady.name, steady.settings, steady.isUp⟩
  exact (steps plan ready.backend).mono (fun _ after granted => ⟨still after, granted⟩) fun _ after _ => still after

theorem bringUp_steady (mac : Mac) (before : Steady iface driven) :
    (bringUp backend mac).Ensures (fun _ after => Steady iface after ∧ held after.backend)
      (fun _ => Steady iface) driven := by
  refine (ensures_bind _ _).mpr ((ensures_iface?).mpr ((ensures_bind _ _).mpr ((ensures_attempt _).mpr ?_)))
  refine (onBackend_steady _ driven before).mono (fun queues opened steady => ?_) fun error refused steady => steady
  simp only [ensures_bind, ensures_log, ensures_update, ensures_attempt]
  have given : Steady iface
      { opened with iface := { opened.iface with pool := { opened.iface.pool with queues := some queues } } } :=
    ⟨steady.name, steady.settings, steady.isUp⟩
  refine (commit_steady steps _ _ given).mono (fun plan after made => made) fun setback after undone => ?_
  simp only [ensures_bind, ensures_log]
  exact (rollBack_steady setback.undo after undone).mono (fun _ _ left => left) fun _ _ left => left

/-- What all granted steps of a plan ensure of a link, whatever the plan, holds of it after a bring-up. -/
theorem up_ensures_of_steps (down : iface.isUp = false) (state : σ) :
    (Driven.up backend).Ensures
      (fun _ after => after.iface.name = iface.name ∧ after.iface.settings.ipv6 = iface.settings.ipv6
        ∧ held after.backend)
      (fun _ after => after.iface.isUp = false) ⟨iface, state⟩ := by
  simp only [Driven.up, ensures_bind, ensures_iface?, down, Bool.false_eq_true, if_false]
  cases iface.settings.check with
  | error v => exact down
  | ok =>
    simp only [ensures_check_ok, ensures_log, ensures_bind]
    refine (bringUp_steady steps _ ⟨rfl, rfl, rfl⟩).mono (fun answer after made => ?_) fun error after steady => ?_
    · obtain ⟨steady, held⟩ := made
      have ipv6 : after.iface.settings.ipv6 = iface.settings.ipv6 := congrArg Settings.ipv6 steady.settings
      exact ⟨steady.name, ipv6, held⟩
    · exact steady.isUp.trans down

end

end Driven

/-- Whatever comes of a tear-down, the interface is down after it. -/
theorem Driven.down_lowers (backend : Backend σ) (driven : Driven σ) :
    (Driven.down backend driven).state.iface.isUp = false := by
  cases isUp : driven.iface.isUp with
  | false => rw [down_refuses isUp, isUp]
  | true =>
    have always {α : Type} (call : Call Error (Driven σ) α) : call.Keeps fun _ => True :=
      fun _ _ => .of_forall (fun _ _ => trivial) fun _ _ => trivial
    have retained : Retained backend fun _ => True :=
      ⟨⟨fun _ _ _ => trivial, fun driven _ => always _ driven⟩, fun _ _ => always _, fun _ _ _ => trivial⟩
    have lowered : (Driven.down backend).Ensures (fun _ after => after.iface.isUp = false)
        (fun _ after => after.iface.isUp = false) driven :=
      retained.down (always (releaseQueues backend)) (fun _ _ _ => rfl) isUp trivial
    exact ensures_state_iff.mp lowered

end VirtualLink
