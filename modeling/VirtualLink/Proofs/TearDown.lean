import VirtualLink.Proofs.Lasting

namespace VirtualLink

open Call Driven

namespace Interface

/-- What a tear-down asks of the link of an interface, in order. -/
def tearDown (iface : Interface) : List Request :=
  iface.settings.retractions ++ (iface.restore.map Restore.requests).getD []

end Interface

namespace Backend

variable {ε σ : Type} {backend : Backend σ} {done done' : Option Error → σ → Prop} {failed failed' : ε → σ → Prop}
  {state : σ}

/-- Making requests never fails, so that it does not matter what is asked of a failure. -/
theorem requestAll_congr (name : String) (changes : List Request)
    (same : ∀ refused after, done refused after ↔ done' refused after) :
    (backend.requestAll name changes).Ensures done failed state
      ↔ (backend.requestAll name changes).Ensures done' failed' state := by
  induction changes generalizing done done' state with
  | nil => exact same _ _
  | cons change rest ih =>
    simp only [requestAll, ensures_bind, ensures_attempt]
    refine ensures_congr (fun _ _ => ih same) fun error between => ?_
    simp only [ensures_bind, ensures_log, ensures_discard]
    exact ih fun _ _ => same _ _

theorem requestAll_append (name : String) (first second : List Request) :
    (backend.requestAll name (first ++ second)).Ensures done failed state
      ↔ (backend.requestAll name first).Ensures (fun early between =>
          (backend.requestAll name second).Ensures (fun late => done (early <|> late)) failed between)
          failed state := by
  induction first generalizing done state with
  | nil => exact Iff.rfl
  | cons change rest ih =>
    simp only [List.cons_append, requestAll, ensures_bind, ensures_attempt]
    refine ensures_congr (fun _ _ => ih) fun error between => ?_
    simp only [ensures_bind, ensures_log, ensures_discard]
    exact ih

end Backend

namespace Driven

variable {σ : Type} {backend : Backend σ} {kept : Driven σ → Prop}

/-- Closes the queues once all requests are made, and answers with the first error of these or its own. -/
def shutDown (backend : Backend σ) (refused : Option Error) : Call Error (Driven σ) Unit := do
  update fun iface => { iface with restore := none }
  let (origin, closing) ← closeLink backend
  update fun iface => { iface with counters := iface.counters.retire origin, isUp := false }
  (refused <|> closing).elim (pure ()) fail

/-- A tear-down that makes all its requests in one go. -/
def takeDown (backend : Backend σ) : Call Error (Driven σ) Unit := do
  let iface ← iface?
  lastLook backend
  let refused ← onBackend (backend.requestAll iface.name iface.tearDown)
  shutDown backend refused

/-- A last look at the counters is over with the first that cannot be read, and never fails. -/
theorem lastLook_ensures {ε : Type} {looked : Driven σ → Prop} {driven : Driven σ}
    (look : (Driven.observeAll backend Stat.all).Ensures (fun _ => looked) (fun _ => looked) driven) :
    (lastLook backend : Call ε (Driven σ) Unit).Ensures (fun _ => looked) (fun _ _ => False) driven := by
  simp only [lastLook, ensures_bind, ensures_attempt]
  exact look.mono (fun _ _ looking => looking) fun _ _ looking => looking

/-- But for what it tells the log, a tear-down makes its requests in one go. -/
theorem down_ensures_iff {driven : Driven σ} {done : Unit → Driven σ → Prop} {failed : Error → Driven σ → Prop}
    (up : driven.iface.isUp = true) :
    (Driven.down backend).Ensures done failed driven ↔ (takeDown backend).Ensures done failed driven := by
  have restoring : Unobserved backend fun looked => looked.iface.restore = driven.iface.restore :=
    ⟨fun _ _ same => same, fun seen _ => onBackend_keeps_iface (Interface.restore · = driven.iface.restore) _ seen⟩
  have look : (lastLook backend : Call Error (Driven σ) Unit).Keeps
      fun looked => looked.iface.restore = driven.iface.restore := fun looked before =>
    (lastLook_ensures (observeAll_keeps restoring.observe Stat.all looked before)).mono (fun _ _ same => same)
      fun _ _ never => never.elim
  simp only [Driven.down, takeDown, ensures_bind (iface?), ensures_bind (log _), ensures_iface?, up, not_true_eq_false,
    if_false, ensures_log, ensures_bind (lastLook _)]
  refine look.ensures_iff rfl fun _ seen same => ?_
  simp only [ensures_bind, ensures_onBackend, Interface.tearDown]
  cases given : driven.iface.restore with
  | none =>
    rw [given] at same
    simp only [Option.map_none, Option.getD_none, List.append_nil]
    refine Backend.requestAll_congr _ _ fun refused after => ?_
    simp only [shutDown]
    rw [ensures_bind, ensures_pure, ensures_bind, ensures_bind, ensures_update, ensures_bind, ← same]
    refine ensures_congr (fun closing final => ?_) fun _ _ => Iff.rfl
    simp only [ensures_bind, ensures_update, ensures_log]
    rcases refused with _ | _ <;> rcases closing with ⟨_, _ | _⟩ <;> exact Iff.rfl
  | some restore =>
    simp only [Option.map_some, Option.getD_some, ensures_bind, ensures_onBackend, ensures_update, ensures_log,
      Backend.requestAll_append]
    refine Backend.requestAll_congr _ _ fun early between => Backend.requestAll_congr _ _ fun late after => ?_
    simp only [shutDown]
    rw [ensures_pure, ensures_bind, ensures_bind, ensures_update, ensures_bind]
    refine ensures_congr (fun closing final => ?_) fun _ _ => Iff.rfl
    simp only [ensures_bind, ensures_update, ensures_log]
    rcases early with _ | _ <;> rcases late with _ | _ <;> rcases closing with ⟨_, _ | _⟩ <;> exact Iff.rfl

/-- The interface after its queues of this origin were closed. -/
def retired (origin : Origin) (driven : Driven σ) : Driven σ :=
  { driven with iface := { driven.iface with counters := driven.iface.counters.retire origin, isUp := false } }

/-- Making requests never fails, whichever of them do. -/
theorem requestAll_ensures
    (request : ∀ name change, (onBackend (backend.request name change) : Call Error (Driven σ) Unit).Keeps kept)
    {ε : Type} (name : String) (changes : List Request) {driven : Driven σ} (before : kept driven) :
    (onBackend (backend.requestAll name changes) : Call ε (Driven σ) (Option Error)).Ensures (fun _ => kept)
      (fun _ _ => False) driven := by
  rw [ensures_onBackend]
  obtain ⟨iface, state⟩ := driven
  induction changes generalizing state with
  | nil => exact before
  | cons change rest ih =>
    simp only [Backend.requestAll, ensures_bind, ensures_attempt]
    refine (onBackend_keeps_iff.mp (request name change) iface state before).mono
      (fun _ after granted => ih after granted) fun error after refused => ?_
    simp only [ensures_log, ensures_bind, ensures_discard]
    exact ih after refused

theorem closeLink_ensures {ε : Type} {closed : Driven σ → Prop} {driven : Driven σ}
    (close : (releaseQueues backend).Ensures (fun _ => closed) (fun _ => closed) driven) :
    (Driven.closeLink backend : Call ε (Driven σ) (Origin × Option Error)).Ensures
      (fun answer after => answer.1 = driven.iface.origin ∧ closed after) (fun _ _ => False) driven := by
  simp only [Driven.closeLink, ensures_bind, ensures_iface?, ensures_attempt]
  exact close.mono (fun _ _ shut => ⟨rfl, shut⟩) fun _ _ shut => ⟨rfl, shut⟩

/-- Whether or not it fails, a tear-down gets from its last look at the counters to the closing of the queues. It
retires the counters by the origin of these, and leaves the interface down. -/
theorem down_ensures {looked done : Driven σ → Prop}
    (request : ∀ name change, (onBackend (backend.request name change) : Call Error (Driven σ) Unit).Keeps looked)
    (restored : ∀ driven, looked driven → looked { driven with iface := { driven.iface with restore := none } })
    (close : ∀ driven, looked driven → (releaseQueues backend).Ensures
      (fun _ after => done (after.retired driven.iface.origin))
      (fun _ after => done (after.retired driven.iface.origin)) driven)
    {driven : Driven σ} (up : driven.iface.isUp = true)
    (look : (Driven.observeAll backend Stat.all).Ensures (fun _ => looked) (fun _ => looked) driven) :
    (Driven.down backend).Ensures (fun _ => done) (fun _ => done) driven := by
  refine (down_ensures_iff up).mpr ((ensures_bind _ _).mpr ((ensures_bind _ _).mpr ?_))
  refine (lastLook_ensures look).mono (fun _ seen looking => ?_) fun _ _ never => never.elim
  refine (ensures_bind _ _).mpr ((requestAll_ensures request _ _ looking).mono (fun refused after still => ?_)
    fun _ _ never => never.elim)
  refine (ensures_bind _ _).mpr ((ensures_update _).mpr ((ensures_bind _ _).mpr ?_))
  refine (closeLink_ensures (close _ (restored after still))).mono ?_ fun _ _ never => never.elim
  rintro ⟨_, closing⟩ final ⟨rfl, shut⟩
  simp only [ensures_bind, ensures_update]
  cases (refused <|> closing) <;> exact shut

/-- A property that a tear-down keeps until it closes the queues. -/
structure Retained (backend : Backend σ) (kept : Driven σ → Prop) : Prop extends Unobserved backend kept where
  request : ∀ name change, (onBackend (backend.request name change) : Call Error (Driven σ) Unit).Keeps kept
  restore : ∀ driven restore, kept driven → kept { driven with iface := { driven.iface with restore } }

namespace Retained

/-- Taking back never fails. -/
theorem takeBack (retained : Retained backend kept) {ε : Type} (name : String) (changes : List Request)
    {driven : Driven σ} (before : kept driven) :
    (onBackend (backend.takeBack name changes) : Call ε (Driven σ) Unit).Ensures (fun _ => kept) (fun _ _ => False)
      driven := by
  rw [ensures_onBackend]
  obtain ⟨iface, state⟩ := driven
  induction changes generalizing state with
  | nil => exact before
  | cons change rest ih =>
    simp only [Backend.takeBack, ensures_bind, ensures_attempt]
    exact (onBackend_keeps_iff.mp (retained.request name change) iface state before).mono
      (fun _ after granted => ih after granted) fun _ after refused => ih after refused

theorem runSteps (retained : Retained backend kept) (name : String) (undo : List Request) (steps : List Step) :
    (onBackend (backend.runSteps name undo steps)).Keeps kept := by
  refine onBackend_keeps_iff.mpr fun iface => ?_
  induction steps generalizing undo with
  | nil => exact fun _ before => before
  | cons step rest ih =>
    have request := onBackend_keeps_iff.mp (retained.request name step.request) iface
    exact (request.mapError _).bind fun _ => Keeps.bind (fun _ before => before) fun _ => ih _

/-- Of a property that the counters have nothing to do with, only the closing of the queues has to be looked at. -/
theorem down (retained : Retained backend kept) {closed done : Driven σ → Prop}
    (close : ∀ driven, kept driven → (releaseQueues backend).Ensures (fun _ => closed) (fun _ => closed) driven)
    (finish : ∀ driven counters, closed driven →
      done { driven with iface := { driven.iface with counters, isUp := false } })
    {driven : Driven σ} (up : driven.iface.isUp = true) (before : kept driven) :
    (Driven.down backend).Ensures (fun _ => done) (fun _ => done) driven :=
  down_ensures retained.request (fun driven still => retained.restore driven none still)
    (fun driven still => (close driven still).mono (fun _ after shut => finish after _ shut)
      fun _ after shut => finish after _ shut)
    up (observeAll_keeps retained.observe Stat.all driven before)

end Retained

end Driven

end VirtualLink
