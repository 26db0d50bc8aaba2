import VirtualLink.Proofs.MemoryLink.Granting
import VirtualLink.Proofs.Pending
import VirtualLink.Proofs.TearDown

namespace VirtualLink

/-- The error is not about the order of calls. -/
def Error.Timely (error : Error) : Prop :=
  error.kind ≠ .state

namespace Call

variable {ε ε' σ τ α β : Type} {answers : α → Prop} {fails : ε → Prop}

/-- From every state the call ends with such an answer or with such an error. -/
def Yields (answers : α → Prop) (fails : ε → Prop) (call : Call ε σ α) : Prop :=
  ∀ state, call.Ensures (fun a _ => answers a) (fun error _ => fails error) state

namespace Yields

theorem pure {a : α} (allowed : answers a) : (Pure.pure a : Call ε σ α).Yields answers fails :=
  fun _ => allowed

theorem fail {error : ε} (allowed : fails error) : (Call.fail error : Call ε σ α).Yields answers fails :=
  fun _ => allowed

theorem log (event : Event) : (Call.log event : Call ε σ Unit).Yields (fun _ => True) fails :=
  fun _ => trivial

theorem logAll (events : List Event) : (Call.logAll events : Call ε σ Unit).Yields (fun _ => True) fails :=
  fun _ => trivial

theorem ofExcept {result : Except ε α} (allowed : ∀ error, result = .error error → fails error) :
    (Call.ofExcept result : Call ε σ α).Yields (fun _ => True) fails := by
  cases result with
  | error error => exact fun _ => allowed error rfl
  | ok a => exact fun _ => trivial

theorem bind {call : Call ε σ α} {next : α → Call ε σ β} {later : β → Prop} (first : call.Yields answers fails)
    (rest : ∀ a, answers a → (next a).Yields later fails) : (call >>= next).Yields later fails := by
  intro state
  rw [ensures_bind]
  exact (first state).mono (fun a after allowed => rest a allowed after) fun _ _ allowed => allowed

theorem map (f : α → β) {call : Call ε σ α} (yields : call.Yields answers fails) :
    (f <$> call).Yields (fun _ => True) fails :=
  yields.bind fun _ _ => .pure trivial

theorem attempt {call : Call ε σ α} (yields : call.Yields answers fails) {none : ε' → Prop} :
    (call.attempt : Call ε' σ (Except ε α)).Yields
      (fun | .ok a => answers a | .error error => fails error) none := by
  intro state
  rw [ensures_attempt]
  exact yields state

theorem mapError {f : ε → ε'} {call : Call ε σ α} {fails' : ε' → Prop} (yields : call.Yields answers fails)
    (mapped : ∀ error, fails error → fails' (f error)) : (call.mapError f).Yields answers fails' := by
  intro state
  rw [ensures_mapError]
  exact (yields state).mono (fun _ _ allowed => allowed) fun error _ allowed => mapped error allowed

theorem ite (condition : Prop) [Decidable condition] {yes no : Call ε σ α} (onYes : yes.Yields answers fails)
    (onNo : no.Yields answers fails) : (if condition then yes else no).Yields answers fails := by
  split
  · exact onYes
  · exact onNo

end Yields

/-- A call that is not refused for coming out of sequence. -/
def Orderly (call : Call Error σ α) : Prop :=
  call.Yields (fun _ => True) Error.Timely

end Call

open Call Driven

variable {ε σ α : Type}

/-- A backend that refuses nothing for coming out of sequence. -/
structure Backend.Orderly (backend : Backend σ) : Prop where
  acquire : ∀ name kind, (backend.acquire name kind).Orderly
  release : ∀ name queues, (backend.release name queues).Orderly
  mac : ∀ name, (backend.mac name).Orderly
  mtu : ∀ name, (backend.mtu name).Orderly
  request : ∀ name change, (backend.request name change).Orderly
  readStat : ∀ name stat, (backend.readStat name stat).Orderly

theorem Stat.ofName_orderly (name : String) :
    (ofExcept (Stat.ofName name) : Call Error σ Stat).Orderly := by
  refine Yields.ofExcept fun error unknown => ?_
  unfold Stat.ofName at unknown
  split at unknown
  · cases unknown
  · cases unknown
    simp [Error.Timely, Error.kind]

theorem MemoryLink.backend_orderly : backend.Orderly := by
  have inject (op : Op) (name : String) : (MemoryLink.inject op name).Orderly := by
    intro link
    rw [inject_ensures]
    split <;> simp [refusal, Error.Timely, Error.kind]
  have requireLink (name : String) : (MemoryLink.requireLink name).Orderly := by
    intro link
    simp only [MemoryLink.requireLink, ensures_bind, ensures_get, ensures_ite, ensures_fail, ensures_pure]
    split <;> simp [Error.Timely, Error.kind]
  have get {ε : Type} {fails : ε → Prop} : (Call.get : Call ε MemoryLink MemoryLink).Yields (fun _ => True) fails :=
    fun _ => trivial
  constructor
  case acquire =>
    intro name kind link
    rw [backend_acquire, acquire_ensures]
    split <;> simp [refusal, Error.Timely, Error.kind]
  case release =>
    intro name queues link
    rw [backend_release, release_ensures]
    split <;> simp [refusal, Error.Timely, Error.kind]
  case mac => exact fun name => (requireLink name).bind fun _ _ => get.bind fun _ _ => .pure trivial
  case mtu => exact fun name => (requireLink name).bind fun _ _ => get.bind fun _ _ => .pure trivial
  case request =>
    intro name change
    refine (inject _ name).bind fun _ _ => (requireLink name).bind fun _ _ => ?_
    exact fun _ => trivial
  case readStat =>
    intro name stat
    exact (inject _ name).bind fun _ _ => (requireLink name).bind fun _ _ =>
      (Stat.ofName_orderly stat).bind fun _ _ => get.bind fun _ _ => .pure trivial

namespace Driven

variable {backend : Backend σ} {answers : α → Prop} {fails : ε → Prop}

theorem yields_iface? : (iface? : Call ε (Driven σ) Interface).Yields (fun _ => True) fails :=
  fun _ => trivial

theorem yields_update (f : Interface → Interface) :
    (update f : Call ε (Driven σ) Unit).Yields (fun _ => True) fails :=
  fun _ => trivial

theorem yields_onBackend {call : Call ε σ α} (yields : call.Yields answers fails) :
    (onBackend call).Yields answers fails :=
  fun driven => (ensures_onBackend call).mpr (yields driven.backend)

end Driven

namespace Backend.Orderly

variable {backend : Backend σ} (orderly : backend.Orderly)

include orderly

theorem runSteps (name : String) (undo : List Request) (steps : List Step) :
    (backend.runSteps name undo steps).Yields (fun _ => True) fun setback => setback.error.Timely := by
  induction steps generalizing undo with
  | nil => exact .pure trivial
  | cons step rest ih =>
    have request : ((backend.request name step.request).mapError fun error => (⟨error, undo⟩ : Setback)).Yields
        (fun _ => True) fun setback => setback.error.Timely := (orderly.request _ _).mapError fun _ timely => timely
    exact request.bind fun _ _ => (Yields.logAll _).bind fun _ _ => ih _

theorem takeBack (name : String) (changes : List Request) {fails : ε → Prop} :
    (backend.takeBack name changes : Call ε σ Unit).Yields (fun _ => True) fails := by
  induction changes with
  | nil => exact .pure trivial
  | cons change rest ih =>
    refine (orderly.request name change).attempt.bind fun outcome _ => ?_
    cases outcome with
    | ok => exact ih
    | error error => exact (Yields.log _).bind fun _ _ => ih

theorem requestAll (name : String) (changes : List Request) {fails : ε → Prop} :
    (backend.requestAll name changes : Call ε σ (Option Error)).Yields
      (fun refused => ∀ error, refused = some error → error.Timely) fails := by
  induction changes with
  | nil => exact .pure (by simp)
  | cons change rest ih =>
    refine (orderly.request name change).attempt.bind fun outcome known => ?_
    cases outcome with
    | ok => exact ih
    | error error =>
      refine (Yields.log _).bind fun _ _ => (ih.map _).bind fun _ _ => .pure fun first same => ?_
      cases same
      exact known

theorem prepare (origin : Origin) (mac : Mac) : (Driven.prepare backend origin mac).Orderly := by
  refine yields_iface?.bind fun iface _ => (yields_onBackend (orderly.mtu _)).bind fun previousMtu _ => ?_
  have rest (mtu : UInt32) :
      (do
        onPool (Pool.reserve (mtu.toNat + frameOverhead))
        let previousMac ← if iface.kind.isTap then some <$> onBackend (backend.mac iface.name) else pure none
        return { previousMtu, previousMac, mac, mtu : Plan }).Orderly := by
    have reserve : (onPool (Pool.reserve (mtu.toNat + frameOverhead)) : Call Error (Driven σ) Unit).Orderly := by
      intro driven
      simp only [Pool.reserve, ensures_onPool, ensures_bind, ensures_get, ensures_ite, ensures_fail, ensures_modify]
      split <;> simp [Error.Timely, Error.kind]
    exact reserve.bind fun _ _ =>
      .ite _ (((yields_onBackend (orderly.mac _)).map _).bind fun _ _ => .pure trivial) (.pure trivial)
  exact .ite _ ((Yields.log _).bind fun _ _ => rest _) (rest _)

theorem commit (origin : Origin) (mac : Mac) :
    (Driven.commit backend origin mac).Yields (fun _ => True) fun setback => setback.error.Timely := by
  have prepare : (unstarted (Driven.prepare backend origin mac)).Yields (fun _ => True)
      fun setback => setback.error.Timely := (orderly.prepare origin mac).mapError fun _ timely => timely
  exact prepare.bind fun _ _ => yields_iface?.bind fun _ _ =>
    (yields_onBackend (orderly.runSteps _ _ _)).bind fun _ _ => .pure trivial

theorem releaseQueues : (Driven.releaseQueues backend).Orderly := by
  refine yields_iface?.bind fun iface _ => ?_
  cases iface.pool.queues with
  | none => exact .pure trivial
  | some queues => exact (yields_update _).bind fun _ _ => yields_onBackend (orderly.release _ _)

theorem rollBack (undo : List Request) {fails : ε → Prop} :
    (Driven.rollBack backend undo : Call ε (Driven σ) Unit).Yields (fun _ => True) fails := by
  refine yields_iface?.bind fun iface _ => (yields_onBackend (orderly.takeBack _ _)).bind fun _ _ =>
    orderly.releaseQueues.attempt.bind fun closed _ => ?_
  cases closed with
  | ok => exact .pure trivial
  | error error => exact .log _

theorem bringUp (mac : Mac) : (Driven.bringUp backend mac).Orderly := by
  refine yields_iface?.bind fun iface _ => (yields_onBackend (orderly.acquire _ _)).attempt.bind fun opened known => ?_
  cases opened with
  | error error => exact (Yields.log _).bind fun _ _ => (Yields.log _).bind fun _ _ => .fail known
  | ok queues =>
    refine (Yields.log _).bind fun _ _ => (yields_update _).bind fun _ _ =>
      (orderly.commit _ _).attempt.bind fun committed known => ?_
    cases committed with
    | ok plan => exact .pure trivial
    | error setback =>
      exact (Yields.log _).bind fun _ _ => (orderly.rollBack _).bind fun _ _ => (Yields.log _).bind fun _ _ =>
        .fail known

theorem up {driven : Driven σ} (down : driven.iface.isUp = false) :
    (Driven.up backend).Ensures (fun _ _ => True) (fun error _ => error.Timely) driven := by
  simp only [Driven.up, ensures_bind (iface?), ensures_iface?]
  rw [if_neg (by simp [down])]
  have check : (Call.check driven.iface.settings.check : Call Error (Driven σ) Unit).Orderly := by
    cases driven.iface.settings.check with
    | error v => exact .fail (by simp [Error.Timely, Error.kind])
    | ok => exact .pure trivial
  refine (check.bind fun _ _ => (Yields.log _).bind fun _ _ => (orderly.bringUp _).bind fun _ _ =>
    (yields_update _).bind fun _ _ => .log _) driven

theorem observe (stat : Stat) : (Driven.observe backend stat).Orderly :=
  yields_iface?.bind fun _ _ =>
    .ite _ ((yields_onBackend (orderly.readStat _ _)).bind fun _ _ => yields_update _) (.pure trivial)

theorem observeAll (stats : List Stat) : (Driven.observeAll backend stats).Orderly := by
  induction stats with
  | nil => exact .pure trivial
  | cons stat rest ih => exact (orderly.observe stat).bind fun _ _ => ih

theorem readCount (name : String) : (Driven.readStat backend name).Orderly :=
  (Stat.ofName_orderly name).bind fun _ _ => (orderly.observe _).bind fun _ _ => yields_iface?.bind fun _ _ =>
    .pure trivial

theorem clearStat (name : String) : (Driven.clearStat backend name).Orderly :=
  (Stat.ofName_orderly name).bind fun _ _ => (orderly.observe _).bind fun _ _ => (yields_update _).bind fun _ _ =>
    yields_iface?.bind fun _ _ => .log _

theorem snapshot : (Driven.snapshot backend).Orderly :=
  (orderly.observeAll _).bind fun _ _ => yields_iface?.bind fun _ _ => .pure trivial

theorem lastLook {fails : ε → Prop} :
    (Driven.lastLook backend : Call ε (Driven σ) Unit).Yields (fun _ => True) fails := by
  refine (orderly.observeAll _).attempt.bind fun looked _ => ?_
  cases looked with
  | ok => exact .pure trivial
  | error error => exact yields_iface?.bind fun _ _ => .log _

theorem closeLink {fails : ε → Prop} :
    (Driven.closeLink backend : Call ε (Driven σ) (Origin × Option Error)).Yields
      (fun closing => ∀ error, closing.2 = some error → error.Timely) fails := by
  refine yields_iface?.bind fun iface _ => orderly.releaseQueues.attempt.bind fun closed known => ?_
  cases closed with
  | ok => exact .pure (by simp)
  | error error =>
    refine (Yields.log _).bind fun _ _ => .pure fun first same => ?_
    cases same
    exact known

theorem shutDown {refused : Option Error} (requested : ∀ error, refused = some error → error.Timely) :
    (Driven.shutDown backend refused).Orderly := by
  refine (yields_update _).bind fun _ _ => orderly.closeLink.bind fun closing closed =>
    (yields_update _).bind fun _ _ => ?_
  obtain ⟨origin, closing⟩ := closing
  cases refused with
  | some error => exact .fail (requested error rfl)
  | none =>
    cases closing with
    | some error => exact .fail (closed error rfl)
    | none => exact .pure trivial

theorem down {driven : Driven σ} (up : driven.iface.isUp = true) :
    (Driven.down backend).Ensures (fun _ _ => True) (fun error _ => error.Timely) driven := by
  have whole : (takeDown backend).Orderly :=
    yields_iface?.bind fun _ _ => orderly.lastLook.bind fun _ _ =>
      (yields_onBackend (orderly.requestAll _ _)).bind fun _ requested => orderly.shutDown requested
  exact (down_ensures_iff up).mpr (whole driven)

end Backend.Orderly

namespace Driven

variable {backend : Backend σ} {driven : Driven σ} {queues : Queues}

theorem yields_any {call : Call ε σ α} : (onBackend call).Yields (fun _ => True) fun _ => True := by
  intro driven
  unfold Ensures
  split <;> trivial

theorem requireQueues_held (action : String) (up : driven.iface.isUp = true)
    (held : driven.iface.pool.queues = some queues) {next : Queues → Call Error (Driven σ) α}
    {done : α → Driven σ → Prop} {failed : Error → Driven σ → Prop} :
    (requireQueues action >>= next).Ensures done failed driven ↔ (next queues).Ensures done failed driven := by
  simp only [requireQueues, ensures_bind, ensures_iface?, held, up, ensures_pure]

theorem send_timely (up : driven.iface.isUp = true) (held : driven.iface.pool.queues = some queues) (packet : Packet) :
    (Driven.send backend packet).Ensures (fun _ _ => True) (fun error _ => error.Timely) driven := by
  refine (requireQueues_held _ up held).mpr ?_
  simp only [ensures_bind, ensures_iface?, ensures_ite, ensures_fail, ensures_attempt]
  split
  · simp [Packet.refusal, Error.Timely, Error.kind]
  · split
    · simp [Packet.refusal, Error.Timely, Error.kind]
    · refine (yields_any driven).mono (fun written after _ => ?_) fun errno after _ => ?_
      · simp only [ensures_ite, ensures_fail, ensures_log]
        split <;> simp [Error.Timely, Error.kind]
      · simp [Error.Timely, Error.kind]

theorem receive_timely (up : driven.iface.isUp = true) (held : driven.iface.pool.queues = some queues) :
    (Driven.receive backend).Ensures (fun _ _ => True) (fun error _ => error.Timely) driven := by
  refine (requireQueues_held _ up held).mpr ?_
  simp only [ensures_bind, ensures_iface?, ensures_attempt]
  refine (yields_any driven).mono (fun frame after _ => ?_) fun errno after _ => ?_
  · simp only [ensures_bind, ensures_onPool, ensures_modify, ensures_ite, ensures_fail, ensures_log]
    split
    · simp [Error.Timely, Error.kind]
    · refine Yields.ofExcept (fun error refused => ?_) _
      unfold Packet.ofPayload at refused
      split at refused
      · cases refused
      · cases refused
        simp [Packet.refusal, Error.Timely, Error.kind]
  · simp only [ensures_ite, ensures_pure, ensures_fail]
    split <;> simp [Error.Timely, Error.kind]

end Driven

end VirtualLink
