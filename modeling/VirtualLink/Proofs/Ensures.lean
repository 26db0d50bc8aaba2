import VirtualLink.Interface

namespace VirtualLink

namespace Call

variable {ε ε' σ τ α β : Type} {done : α → σ → Prop} {failed : ε → σ → Prop} {state : σ}

/-- From this state the call ends either with an answer and a state as `done` says, or with an error and a
state as `failed` says. What the call tells the log is left open. -/
def Ensures (call : Call ε σ α) (done : α → σ → Prop) (failed : ε → σ → Prop) (state : σ) : Prop :=
  match (call state).result with
  | .ok a => done a (call state).state
  | .error error => failed error (call state).state

theorem Ensures.of_ok {call : Call ε σ α} {a : α} (ensures : call.Ensures done failed state)
    (answer : (call state).result = .ok a) : done a (call state).state := by
  simpa only [Ensures, answer] using ensures

theorem Ensures.of_error {call : Call ε σ α} {error : ε} (ensures : call.Ensures done failed state)
    (refusal : (call state).result = .error error) : failed error (call state).state := by
  simpa only [Ensures, refusal] using ensures

theorem Ensures.of_forall {call : Call ε σ α} (onDone : ∀ a after, done a after)
    (onFailed : ∀ error after, failed error after) : call.Ensures done failed state := by
  unfold Ensures
  split
  · exact onDone _ _
  · exact onFailed _ _

theorem Ensures.mono {call : Call ε σ α} {done' : α → σ → Prop} {failed' : ε → σ → Prop}
    (ensures : call.Ensures done failed state) (onDone : ∀ a after, done a after → done' a after)
    (onFailed : ∀ error after, failed error after → failed' error after) :
    call.Ensures done' failed' state := by
  unfold Ensures at ensures ⊢
  split
  · rename_i a answer
    exact onDone _ _ (by simpa only [answer] using ensures)
  · rename_i error refusal
    exact onFailed _ _ (by simpa only [refusal] using ensures)

theorem Ensures.and {call : Call ε σ α} {done' : α → σ → Prop} {failed' : ε → σ → Prop}
    (first : call.Ensures done failed state) (second : call.Ensures done' failed' state) :
    call.Ensures (fun a after => done a after ∧ done' a after)
      (fun error after => failed error after ∧ failed' error after)
      state := by
  unfold Ensures at *
  split
  · rename_i a answer
    exact ⟨by simpa only [answer] using first, by simpa only [answer] using second⟩
  · rename_i error refusal
    exact ⟨by simpa only [refusal] using first, by simpa only [refusal] using second⟩

theorem ensures_congr {call : Call ε σ α} {done' : α → σ → Prop} {failed' : ε → σ → Prop}
    (onDone : ∀ a after, done a after ↔ done' a after)
    (onFailed : ∀ error after, failed error after ↔ failed' error after) :
    call.Ensures done failed state ↔ call.Ensures done' failed' state := by
  unfold Ensures
  split
  · exact onDone _ _
  · exact onFailed _ _

/-- A postcondition on the state alone speaks of the state that the call leaves behind. -/
theorem ensures_state_iff {call : Call ε σ α} {held : σ → Prop} :
    call.Ensures (fun _ => held) (fun _ => held) state ↔ held (call state).state := by
  unfold Ensures
  split <;> rfl

theorem ensures_result_iff {call : Call ε σ α} {ended : Except ε α → σ → Prop} :
    call.Ensures (fun a => ended (.ok a)) (fun error => ended (.error error)) state
      ↔ ended (call state).result (call state).state := by
  unfold Ensures
  rcases call state with ⟨_ | _, _, _⟩ <;> rfl

/-- A call that is granted and tells the log nothing hands over to what follows it. -/
theorem bind_of_ok {call : Call ε σ α} {a : α} {after : σ} (granted : call state = ⟨.ok a, after, []⟩)
    (next : α → Call ε σ β) : (call >>= next) state = next a after := by
  change Call.bind call next state = _
  simp only [Call.bind, granted]
  rfl

/-- A call that fails stops what follows it. -/
theorem bind_of_error {call : Call ε σ α} {error : ε} {after : σ} {events : List Event}
    (refused : call state = ⟨.error error, after, events⟩) (next : α → Call ε σ β) :
    (call >>= next) state = ⟨.error error, after, events⟩ := by
  change Call.bind call next state = _
  simp only [Call.bind, refused]

/-! The rules for the ways in which calls are put together. -/

@[simp]
theorem ensures_pure (a : α) : (pure a : Call ε σ α).Ensures done failed state ↔ done a state :=
  Iff.rfl

@[simp]
theorem ensures_bind (call : Call ε σ α) (next : α → Call ε σ β) {done : β → σ → Prop} :
    (call >>= next).Ensures done failed state
      ↔ call.Ensures (fun a => (next a).Ensures done failed) failed state := by
  change (Call.bind call next).Ensures done failed state ↔ _
  unfold Ensures Call.bind
  rcases call state with ⟨_ | _, _, _⟩ <;> rfl

@[simp]
theorem ensures_map (f : α → β) (call : Call ε σ α) {done : β → σ → Prop} :
    (f <$> call).Ensures done failed state ↔ call.Ensures (fun a => done (f a)) failed state :=
  ensures_bind call fun a => pure (f a)

@[simp]
theorem state_map (f : α → β) (call : Call ε σ α) : ((f <$> call) state).state = (call state).state := by
  change ((Call.bind call fun a => pure (f a)) state).state = (call state).state
  unfold Call.bind
  rcases call state with ⟨_ | _, _, _⟩ <;> rfl

@[simp]
theorem ensures_fail (error : ε) : (fail error : Call ε σ α).Ensures done failed state ↔ failed error state :=
  Iff.rfl

@[simp]
theorem ensures_get {done : σ → σ → Prop} :
    (Call.get : Call ε σ σ).Ensures done failed state ↔ done state state :=
  Iff.rfl

@[simp]
theorem ensures_modify (f : σ → σ) {done : Unit → σ → Prop} :
    (Call.modify f : Call ε σ Unit).Ensures done failed state ↔ done () (f state) :=
  Iff.rfl

@[simp]
theorem ensures_log (event : Event) {done : Unit → σ → Prop} :
    (log event : Call ε σ Unit).Ensures done failed state ↔ done () state :=
  Iff.rfl

@[simp]
theorem ensures_logAll (events : List Event) {done : Unit → σ → Prop} :
    (logAll events : Call ε σ Unit).Ensures done failed state ↔ done () state :=
  Iff.rfl

@[simp]
theorem ensures_ofExcept_ok (a : α) :
    (ofExcept (.ok a) : Call ε σ α).Ensures done failed state ↔ done a state :=
  Iff.rfl

@[simp]
theorem ensures_ofExcept_error (error : ε) :
    (ofExcept (.error error) : Call ε σ α).Ensures done failed state ↔ failed error state :=
  Iff.rfl

@[simp]
theorem ensures_attempt (call : Call ε σ α) {done : Except ε α → σ → Prop} {failed : ε' → σ → Prop} :
    (call.attempt : Call ε' σ (Except ε α)).Ensures done failed state
      ↔ call.Ensures (fun a => done (.ok a)) (fun error => done (.error error)) state := by
  unfold Ensures attempt
  rcases call state with ⟨_ | _, _, _⟩ <;> rfl

@[simp]
theorem ensures_mapError (f : ε → ε') (call : Call ε σ α) {failed : ε' → σ → Prop} :
    (call.mapError f).Ensures done failed state ↔ call.Ensures done (fun error => failed (f error)) state := by
  unfold Ensures mapError
  rcases call state with ⟨_ | _, _, _⟩ <;> rfl

@[simp]
theorem ensures_zoom (part : τ → σ) (put : σ → τ → τ) (call : Call ε σ α) {done : α → τ → Prop}
    {failed : ε → τ → Prop} {whole : τ} :
    (call.zoom part put).Ensures done failed whole
      ↔ call.Ensures (fun a state => done a (put state whole)) (fun error state => failed error (put state whole))
          (part whole) := by
  unfold Ensures zoom
  rcases call (part whole) with ⟨_ | _, _, _⟩ <;> rfl

@[simp]
theorem ensures_check_ok (a : α) {failed : Error → σ → Prop} :
    (check (.ok a) : Call Error σ α).Ensures done failed state ↔ done a state :=
  Iff.rfl

@[simp]
theorem ensures_check_error (v : Violation) {failed : Error → σ → Prop} :
    (check (.error v) : Call Error σ α).Ensures done failed state ↔ failed (.violation v) state :=
  Iff.rfl

@[simp]
theorem ensures_ite (condition : Prop) [Decidable condition] (yes no : Call ε σ α) :
    (if condition then yes else no).Ensures done failed state
      ↔ if condition then yes.Ensures done failed state else no.Ensures done failed state := by
  split <;> rfl

@[simp]
theorem ensures_discard (call : Call ε σ α) {done : PUnit → σ → Prop} :
    (discard call : Call ε σ PUnit).Ensures done failed state ↔ call.Ensures (fun _ => done ⟨⟩) failed state :=
  ensures_map (fun _ => PUnit.unit) call

/-- Whatever the outcome, a property of the state survives the call. -/
def Keeps (kept : σ → Prop) (call : Call ε σ α) : Prop :=
  ∀ state, kept state → call.Ensures (fun _ => kept) (fun _ => kept) state

namespace Keeps

variable {kept : σ → Prop}

theorem after {call : Call ε σ α} (keeps : call.Keeps kept) (before : kept state) : kept (call state).state :=
  ensures_state_iff.mp (keeps state before)

/-- To tell whether an answer is as asked, what the call keeps is known. -/
theorem ensures_iff {call : Call ε σ α} {done' : α → σ → Prop} (keeps : call.Keeps kept) (before : kept state)
    (same : ∀ a after, kept after → (done a after ↔ done' a after)) :
    call.Ensures done failed state ↔ call.Ensures done' failed state := by
  have after := keeps.after before
  unfold Ensures
  split
  · exact same _ _ after
  · rfl

theorem bind {call : Call ε σ α} {next : α → Call ε σ β} (first : call.Keeps kept)
    (rest : ∀ a, (next a).Keeps kept) : (call >>= next).Keeps kept := by
  intro state before
  rw [ensures_bind]
  exact (first state before).mono (fun a after held => rest a after held) fun _ _ held => held

theorem get : (Call.get : Call ε σ σ).Keeps kept :=
  fun _ before => before

theorem log (event : Event) : (Call.log event : Call ε σ Unit).Keeps kept :=
  fun _ before => before

theorem ofExcept (result : Except ε α) : (Call.ofExcept result : Call ε σ α).Keeps kept := by
  cases result <;> exact fun _ before => before

theorem check (result : Checked α) : (Call.check result : Call Error σ α).Keeps kept :=
  ofExcept _

theorem map (f : α → β) {call : Call ε σ α} (keeps : call.Keeps kept) : (f <$> call).Keeps kept :=
  fun state before => (ensures_map f call).mpr (keeps state before)

theorem attempt {call : Call ε σ α} (keeps : call.Keeps kept) :
    (call.attempt : Call ε' σ (Except ε α)).Keeps kept :=
  fun state before => (ensures_attempt call).mpr (keeps state before)

theorem mapError (f : ε → ε') {call : Call ε σ α} (keeps : call.Keeps kept) : (call.mapError f).Keeps kept :=
  fun state before => (ensures_mapError f call).mpr (keeps state before)

theorem ite (condition : Prop) [Decidable condition] {yes no : Call ε σ α} (onYes : yes.Keeps kept)
    (onNo : no.Keeps kept) : (if condition then yes else no).Keeps kept := by
  split
  · exact onYes
  · exact onNo

theorem forM {act : α → Call ε σ PUnit} (each : ∀ a, (act a).Keeps kept) :
    ∀ o : Option α, (o.forM act).Keeps kept
  | none => fun _ before => before
  | some a => each a

end Keeps

/-- Whatever the outcome, what is seen of the state is the same afterwards. -/
def Leaves (view : σ → τ) (call : Call ε σ α) : Prop :=
  ∀ seen, call.Keeps fun state => view state = seen

namespace Leaves

variable {view : σ → τ} {call : Call ε σ α}

theorem bind {next : α → Call ε σ β} (first : call.Leaves view) (rest : ∀ a, (next a).Leaves view) :
    (call >>= next).Leaves view :=
  fun seen => (first seen).bind fun a => rest a seen

theorem map (f : α → β) (leaves : call.Leaves view) : (f <$> call).Leaves view :=
  fun seen => (leaves seen).map f

theorem mapError (f : ε → ε') (leaves : call.Leaves view) : (call.mapError f).Leaves view :=
  fun seen => (leaves seen).mapError f

end Leaves

end Call

namespace Driven

variable {ε σ α : Type} {driven : Driven σ} {failed : ε → Driven σ → Prop}

@[simp]
theorem ensures_iface? {done : Interface → Driven σ → Prop} :
    (iface? : Call ε (Driven σ) Interface).Ensures done failed driven ↔ done driven.iface driven :=
  Iff.rfl

@[simp]
theorem ensures_update (f : Interface → Interface) {done : Unit → Driven σ → Prop} :
    (update f : Call ε (Driven σ) Unit).Ensures done failed driven
      ↔ done () { driven with iface := f driven.iface } :=
  Iff.rfl

@[simp]
theorem ensures_onBackend (call : Call ε σ α) {done : α → Driven σ → Prop} :
    (onBackend call).Ensures done failed driven
      ↔ call.Ensures (fun a backend => done a { driven with backend })
          (fun error backend => failed error { driven with backend }) driven.backend :=
  Call.ensures_zoom ..

@[simp]
theorem ensures_onInterface (call : Call ε Interface α) {done : α → Driven σ → Prop} :
    (onInterface call).Ensures done failed driven
      ↔ call.Ensures (fun a iface => done a { driven with iface })
          (fun error iface => failed error { driven with iface }) driven.iface :=
  Call.ensures_zoom ..

@[simp]
theorem ensures_onPool (call : Call ε Pool α) {done : α → Driven σ → Prop} :
    (onPool call).Ensures done failed driven
      ↔ call.Ensures (fun a pool => done a { driven with iface := { driven.iface with pool } })
          (fun error pool => failed error { driven with iface := { driven.iface with pool } }) driven.iface.pool :=
  (ensures_onInterface _).trans (Call.ensures_zoom ..)

end Driven

end VirtualLink
