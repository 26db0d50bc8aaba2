import VirtualLink.Proofs.Session

namespace VirtualLink

namespace Call

variable {ε ε' σ τ α β : Type} {view : τ → σ}

/-- Of what is seen of a larger state, a call on it makes what the other call makes of that part alone. -/
def Mirrors (view : τ → σ) (whole : Call ε τ α) (part : Call ε σ α) : Prop :=
  ∀ state, part (view state) = ⟨(whole state).result, view (whole state).state, (whole state).events⟩

namespace Mirrors

theorem pure (a : α) : Mirrors view (Pure.pure a : Call ε τ α) (Pure.pure a) :=
  fun _ => rfl

theorem fail (error : ε) : Mirrors view (Call.fail error : Call ε τ α) (Call.fail error) :=
  fun _ => rfl

theorem log (event : Event) : Mirrors view (Call.log event : Call ε τ Unit) (Call.log event) :=
  fun _ => rfl

theorem logAll (events : List Event) : Mirrors view (Call.logAll events : Call ε τ Unit) (Call.logAll events) :=
  fun _ => rfl

theorem ofExcept (result : Except ε α) : Mirrors view (Call.ofExcept result : Call ε τ α) (Call.ofExcept result) :=
  fun _ => rfl

theorem bind {whole : Call ε τ α} {part : Call ε σ α} {next : α → Call ε τ β} {next' : α → Call ε σ β}
    (first : Mirrors view whole part) (rest : ∀ a, Mirrors view (next a) (next' a)) :
    Mirrors view (whole >>= next) (part >>= next') := by
  intro state
  change Call.bind part next' (view state) = ⟨(Call.bind whole next state).result,
    view (Call.bind whole next state).state, (Call.bind whole next state).events⟩
  unfold Call.bind
  rw [first state]
  rcases whole state with ⟨_ | a, after, events⟩
  · rfl
  · simp only [rest a after]

theorem map (f : α → β) {whole : Call ε τ α} {part : Call ε σ α} (mirrors : Mirrors view whole part) :
    Mirrors view (f <$> whole) (f <$> part) :=
  mirrors.bind fun a => pure (f a)

theorem attempt {whole : Call ε τ α} {part : Call ε σ α} (mirrors : Mirrors view whole part) :
    Mirrors view (whole.attempt : Call ε' τ (Except ε α)) part.attempt := by
  intro state
  simp only [Call.attempt, mirrors state]

theorem mapError (f : ε → ε') {whole : Call ε τ α} {part : Call ε σ α} (mirrors : Mirrors view whole part) :
    Mirrors view (whole.mapError f) (part.mapError f) := by
  intro state
  simp only [Call.mapError, mirrors state]

theorem ite (condition : Prop) [Decidable condition] {yes no : Call ε τ α} {yes' no' : Call ε σ α}
    (onYes : Mirrors view yes yes') (onNo : Mirrors view no no') :
    Mirrors view (if condition then yes else no) (if condition then yes' else no') := by
  split
  · exact onYes
  · exact onNo

/-- What a call on the larger state ensures of the part that is seen, the call on that part alone does. -/
theorem ensures_iff {whole : Call ε τ α} {part : Call ε σ α} (mirrors : Mirrors view whole part)
    {done : α → σ → Prop} {failed : ε → σ → Prop} (state : τ) :
    part.Ensures done failed (view state)
      ↔ whole.Ensures (fun a after => done a (view after)) (fun error after => failed error (view after)) state := by
  unfold Ensures
  rw [mirrors state]

end Mirrors

end Call

open Call

variable {ε σ τ α : Type} {view : τ → σ}

/-- A backend on a larger state that does what the other does on the part of it that is seen. -/
structure Backend.Mirrors (view : τ → σ) (whole : Backend τ) (part : Backend σ) : Prop where
  acquire : ∀ name kind, Call.Mirrors view (whole.acquire name kind) (part.acquire name kind)
  release : ∀ name queues, Call.Mirrors view (whole.release name queues) (part.release name queues)
  mac : ∀ name, Call.Mirrors view (whole.mac name) (part.mac name)
  mtu : ∀ name, Call.Mirrors view (whole.mtu name) (part.mtu name)
  request : ∀ name change, Call.Mirrors view (whole.request name change) (part.request name change)
  readStat : ∀ name stat, Call.Mirrors view (whole.readStat name stat) (part.readStat name stat)
  read : ∀ descriptor limit, Call.Mirrors view (whole.read descriptor limit) (part.read descriptor limit)
  write : ∀ descriptor frame, Call.Mirrors view (whole.write descriptor frame) (part.write descriptor frame)

namespace Driven

/-- What is seen of an interface and the larger state. -/
def seen (view : τ → σ) (driven : Driven τ) : Driven σ :=
  ⟨driven.iface, view driven.backend⟩

theorem mirrors_iface? : Call.Mirrors (seen view) (iface? : Call ε (Driven τ) Interface) iface? :=
  fun _ => rfl

theorem mirrors_update (f : Interface → Interface) :
    Call.Mirrors (seen view) (update f : Call ε (Driven τ) Unit) (update f) :=
  fun _ => rfl

theorem mirrors_onInterface (call : Call ε Interface α) :
    Call.Mirrors (seen view) (onInterface call) (onInterface call) :=
  fun _ => rfl

theorem mirrors_onPool (call : Call ε Pool α) : Call.Mirrors (seen view) (onPool call) (onPool call) :=
  fun _ => rfl

theorem mirrors_onBackend {whole : Call ε τ α} {part : Call ε σ α} (mirrors : Call.Mirrors view whole part) :
    Call.Mirrors (seen view) (onBackend whole) (onBackend part) := by
  intro driven
  simp only [onBackend, zoom, seen, mirrors driven.backend]

end Driven

namespace Backend.Mirrors

variable {whole : Backend τ} {part : Backend σ}

theorem runSteps (same : Backend.Mirrors view whole part) (name : String) (undo : List Request) (steps : List Step) :
    Call.Mirrors view (whole.runSteps name undo steps) (part.runSteps name undo steps) := by
  induction steps generalizing undo with
  | nil => exact .pure ()
  | cons step rest ih =>
    exact ((same.request name step.request).mapError _).bind fun _ => (Call.Mirrors.logAll _).bind fun _ => ih _

theorem takeBack (same : Backend.Mirrors view whole part) (name : String) (changes : List Request) :
    Call.Mirrors view (whole.takeBack name changes : Call ε τ Unit) (part.takeBack name changes) := by
  induction changes with
  | nil => exact .pure ()
  | cons change rest ih =>
    refine (same.request name change).attempt.bind fun outcome => ?_
    cases outcome with
    | ok => exact ih
    | error error => exact (Call.Mirrors.log _).bind fun _ => ih

theorem requestAll (same : Backend.Mirrors view whole part) (name : String) (changes : List Request) :
    Call.Mirrors view (whole.requestAll name changes : Call ε τ (Option Error)) (part.requestAll name changes) := by
  induction changes with
  | nil => exact .pure none
  | cons change rest ih =>
    refine (same.request name change).attempt.bind fun outcome => ?_
    cases outcome with
    | ok => exact ih
    | error error => exact (Call.Mirrors.log _).bind fun _ => (ih.map _).bind fun _ => .pure _

open Driven

theorem prepare (same : Backend.Mirrors view whole part) (origin : Origin) (mac : Mac) :
    Call.Mirrors (seen view) (Driven.prepare whole origin mac) (Driven.prepare part origin mac) := by
  refine mirrors_iface?.bind fun iface => (mirrors_onBackend (same.mtu _)).bind fun previousMtu => ?_
  have rest (mtu : UInt32) :
      Call.Mirrors (seen view)
        (do
          onPool (Pool.reserve (mtu.toNat + frameOverhead))
          let previousMac ← if iface.kind.isTap then some <$> onBackend (whole.mac iface.name) else pure none
          return { previousMtu, previousMac, mac, mtu : Plan })
        (do
          onPool (Pool.reserve (mtu.toNat + frameOverhead))
          let previousMac ← if iface.kind.isTap then some <$> onBackend (part.mac iface.name) else pure none
          return { previousMtu, previousMac, mac, mtu : Plan }) :=
    (mirrors_onPool _).bind fun _ =>
      .ite _ (((mirrors_onBackend (same.mac _)).map _).bind fun _ => .pure _)
        ((Call.Mirrors.pure none).bind fun _ => .pure _)
  exact .ite _ ((Call.Mirrors.log _).bind fun _ => rest _) (rest _)

theorem commit (same : Backend.Mirrors view whole part) (origin : Origin) (mac : Mac) :
    Call.Mirrors (seen view) (Driven.commit whole origin mac) (Driven.commit part origin mac) :=
  ((same.prepare origin mac).mapError _).bind fun _ => mirrors_iface?.bind fun _ =>
    (mirrors_onBackend (same.runSteps _ _ _)).bind fun _ => .pure _

theorem releaseQueues (same : Backend.Mirrors view whole part) :
    Call.Mirrors (seen view) (Driven.releaseQueues whole) (Driven.releaseQueues part) := by
  refine mirrors_iface?.bind fun iface => ?_
  cases iface.pool.queues with
  | none => exact .pure ()
  | some queues => exact (mirrors_update _).bind fun _ => mirrors_onBackend (same.release _ _)

theorem rollBack (same : Backend.Mirrors view whole part) (undo : List Request) :
    Call.Mirrors (seen view) (Driven.rollBack whole undo : Call ε (Driven τ) Unit) (Driven.rollBack part undo) := by
  refine mirrors_iface?.bind fun iface => (mirrors_onBackend (same.takeBack _ _)).bind fun _ =>
    same.releaseQueues.attempt.bind fun outcome => ?_
  cases outcome with
  | ok => exact .pure ()
  | error error => exact .log _

theorem bringUp (same : Backend.Mirrors view whole part) (mac : Mac) :
    Call.Mirrors (seen view) (Driven.bringUp whole mac) (Driven.bringUp part mac) := by
  refine mirrors_iface?.bind fun iface => (mirrors_onBackend (same.acquire _ _)).attempt.bind fun opened => ?_
  cases opened with
  | error error => exact (Call.Mirrors.log _).bind fun _ => (Call.Mirrors.log _).bind fun _ => .fail _
  | ok queues =>
    refine (Call.Mirrors.log _).bind fun _ => (mirrors_update _).bind fun _ =>
      (same.commit _ _).attempt.bind fun committed => ?_
    cases committed with
    | ok plan => exact .pure _
    | error setback =>
      exact (Call.Mirrors.log _).bind fun _ => (same.rollBack _).bind fun _ =>
        (Call.Mirrors.log _).bind fun _ => .fail _

theorem up (same : Backend.Mirrors view whole part) :
    Call.Mirrors (seen view) (Driven.up whole) (Driven.up part) :=
  mirrors_iface?.bind fun _ => .ite _ (.fail _) <| (Call.Mirrors.ofExcept _).bind fun _ =>
    (Call.Mirrors.log _).bind fun _ => (same.bringUp _).bind fun _ => (mirrors_update _).bind fun _ => .log _

theorem observe (same : Backend.Mirrors view whole part) (stat : Stat) :
    Call.Mirrors (seen view) (Driven.observe whole stat) (Driven.observe part stat) :=
  mirrors_iface?.bind fun _ =>
    .ite _ ((mirrors_onBackend (same.readStat _ _)).bind fun _ => mirrors_update _) (.pure ())

theorem observeAll (same : Backend.Mirrors view whole part) (stats : List Stat) :
    Call.Mirrors (seen view) (Driven.observeAll whole stats) (Driven.observeAll part stats) := by
  induction stats with
  | nil => exact .pure ()
  | cons stat rest ih => exact (same.observe stat).bind fun _ => ih

theorem readCount (same : Backend.Mirrors view whole part) (name : String) :
    Call.Mirrors (seen view) (Driven.readStat whole name) (Driven.readStat part name) :=
  (Call.Mirrors.ofExcept _).bind fun _ => (same.observe _).bind fun _ => mirrors_iface?.bind fun _ => .pure _

theorem clearStat (same : Backend.Mirrors view whole part) (name : String) :
    Call.Mirrors (seen view) (Driven.clearStat whole name) (Driven.clearStat part name) :=
  (Call.Mirrors.ofExcept _).bind fun _ => (same.observe _).bind fun _ => (mirrors_update _).bind fun _ =>
    mirrors_iface?.bind fun _ => .log _

theorem snapshot (same : Backend.Mirrors view whole part) :
    Call.Mirrors (seen view) (Driven.snapshot whole) (Driven.snapshot part) :=
  (same.observeAll _).bind fun _ => mirrors_iface?.bind fun _ => .pure _

theorem lastLook (same : Backend.Mirrors view whole part) :
    Call.Mirrors (seen view) (Driven.lastLook whole : Call ε (Driven τ) Unit) (Driven.lastLook part) := by
  refine (same.observeAll _).attempt.bind fun looked => ?_
  cases looked with
  | ok => exact .pure ()
  | error error => exact mirrors_iface?.bind fun _ => .log _

theorem closeLink (same : Backend.Mirrors view whole part) :
    Call.Mirrors (seen view) (Driven.closeLink whole : Call ε (Driven τ) (Origin × Option Error))
      (Driven.closeLink part) := by
  refine mirrors_iface?.bind fun iface => same.releaseQueues.attempt.bind fun closed => ?_
  cases closed with
  | ok => exact .pure _
  | error error => exact (Call.Mirrors.log _).bind fun _ => .pure _

theorem down (same : Backend.Mirrors view whole part) :
    Call.Mirrors (seen view) (Driven.down whole) (Driven.down part) := by
  refine mirrors_iface?.bind fun iface => .ite _ (.fail _) <| (Call.Mirrors.log _).bind fun _ =>
    same.lastLook.bind fun _ => (mirrors_onBackend (same.requestAll _ _)).bind fun retracting => ?_
  cases iface.restore with
  | none =>
    refine (Call.Mirrors.pure none).bind fun restoring => same.closeLink.bind fun closed =>
      (mirrors_update _).bind fun _ => (Call.Mirrors.log _).bind fun _ => ?_
    cases retracting <|> restoring <|> closed.2 with
    | none => exact .pure ()
    | some error => exact .fail error
  | some restore =>
    refine (mirrors_update _).bind fun _ => (mirrors_onBackend (same.requestAll _ _)).bind fun refused =>
      (Call.Mirrors.log _).bind fun _ => (Call.Mirrors.pure refused).bind fun restoring =>
      same.closeLink.bind fun closed => (mirrors_update _).bind fun _ => (Call.Mirrors.log _).bind fun _ => ?_
    cases retracting <|> restoring <|> closed.2 with
    | none => exact .pure ()
    | some error => exact .fail error

theorem requireQueues (action : String) :
    Call.Mirrors (seen view) (Driven.requireQueues action : Call Error (Driven τ) Queues)
      (Driven.requireQueues action) := by
  refine mirrors_iface?.bind fun iface => ?_
  cases iface.pool.queues with
  | none => exact .fail _
  | some queues =>
    cases iface.isUp with
    | false => exact .fail _
    | true => exact .pure queues

theorem send (same : Backend.Mirrors view whole part) (packet : Packet) :
    Call.Mirrors (seen view) (Driven.send whole packet) (Driven.send part packet) := by
  refine (requireQueues _).bind fun queues => mirrors_iface?.bind fun iface =>
    .ite _ (.fail _) <| .ite _ (.fail _) <| (mirrors_onBackend (same.write _ _)).attempt.bind fun sent => ?_
  cases sent with
  | error errno => exact .fail _
  | ok written => exact .ite _ (.fail _) (.log _)

theorem receive (same : Backend.Mirrors view whole part) :
    Call.Mirrors (seen view) (Driven.receive whole) (Driven.receive part) := by
  refine (requireQueues _).bind fun queues => mirrors_iface?.bind fun iface =>
    (mirrors_onBackend (same.read _ _)).attempt.bind fun arrived => ?_
  cases arrived with
  | error errno => exact .ite _ (.pure _) (.fail _)
  | ok frame =>
    exact (mirrors_onPool _).bind fun _ => .ite _ (.fail _) ((Call.Mirrors.log _).bind fun _ => .ofExcept _)

theorem call (same : Backend.Mirrors view whole part) :
    ∀ action : Action, Call.Mirrors (seen view) (action.call whole) (action.call part)
  | .set _ => (mirrors_onInterface _).map _
  | .up => same.up.map _
  | .down => same.down.map _
  | .send packet => (same.send packet).map _
  | .receive => same.receive.map _
  | .readStat name => (same.readCount name).map _
  | .clearStat name => (same.clearStat name).map _
  | .snapshot => same.snapshot.map _

/-- A run of actions leaves the same to be seen. -/
theorem run (same : Backend.Mirrors view whole part) (actions : List Action) (start : Driven τ) :
    Action.run part actions (start.seen view) = (Action.run whole actions start).seen view := by
  induction actions generalizing start with
  | nil => rfl
  | cons action rest ih =>
    change Action.run part rest (action.call part (start.seen view)).state = _
    rw [same.call action start]
    exact ih _

/-- Giving an interface up leaves the same to be seen. -/
theorem drop (same : Backend.Mirrors view whole part) (iface : Interface) :
    Call.Mirrors (Prod.map id view) (Interface.drop whole iface : Call ε (Registry × τ) Unit)
      (Interface.drop part iface) := by
  rintro ⟨registry, state⟩
  unfold Interface.drop
  split
  · simp only [Bind.bind, Call.bind, Call.get, Prod.map_apply, id_eq]
    have lowered : Driven.down part ⟨iface, view state⟩ = _ := same.down ⟨iface, state⟩
    rw [lowered]
    generalize Driven.down whole ⟨iface, state⟩ = reply
    rcases reply with ⟨_ | _, after, events⟩ <;> rfl
  · rfl

end Backend.Mirrors

end VirtualLink
