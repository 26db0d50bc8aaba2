import VirtualLink.Proofs.Enduring
import VirtualLink.Proofs.Mirroring

namespace VirtualLink

open Call Driven

variable {ε σ α : Type}

/-- What an interface and its backend exchange about the queues of the link of a name. -/
inductive Exchange
  /-- The backend is asked for queues of a link of this kind, and gives some unless it fails. -/
  | asked (name : String) (kind : Kind) (answer : Option Queues)
  | returned (name : String) (queues : Queues)

/-- The state of a backend, with what was exchanged with it so far, oldest first. -/
structure Recorded (σ : Type) where
  state : σ
  trace : List Exchange

namespace Recorded

def put (state : σ) (recorded : Recorded σ) : Recorded σ :=
  { recorded with state }

def note (exchange : Exchange) (recorded : Recorded σ) : Recorded σ :=
  { recorded with trace := recorded.trace ++ [exchange] }

end Recorded

/-- The call, with a note of what it comes to. -/
def Call.noted (exchange : Except ε α → Exchange) (call : Call ε (Recorded σ) α) : Call ε (Recorded σ) α :=
  fun recorded =>
    let reply := call recorded
    { reply with state := reply.state.note (exchange reply.result) }

@[simp]
theorem Call.ensures_noted {exchange : Except ε α → Exchange} {call : Call ε (Recorded σ) α}
    {done : α → Recorded σ → Prop} {failed : ε → Recorded σ → Prop} {recorded : Recorded σ} :
    (call.noted exchange).Ensures done failed recorded
      ↔ call.Ensures (fun a after => done a (after.note (exchange (.ok a))))
          (fun error after => failed error (after.note (exchange (.error error)))) recorded := by
  unfold Ensures noted
  rcases call recorded with ⟨_ | _, _, _⟩ <;> rfl

/-- The same backend, with a record of the queues that it gives and takes back. -/
def Backend.recorded (backend : Backend σ) : Backend (Recorded σ) :=
  let plain := backend.zoom Recorded.state Recorded.put
  { plain with
    acquire := fun name kind => (plain.acquire name kind).noted fun result => .asked name kind result.toOption
    release := fun name queues => (plain.release name queues).noted fun _ => .returned name queues }

/-- To keep a record changes nothing else. -/
theorem Backend.recorded_mirrors (backend : Backend σ) :
    Backend.Mirrors Recorded.state backend.recorded backend where
  acquire _ _ _ := rfl
  release _ _ _ := rfl
  mac _ _ := rfl
  mtu _ _ := rfl
  request _ _ _ := rfl
  readStat _ _ _ := rfl
  read _ _ _ := rfl
  write _ _ _ := rfl

/-- These queues are held by this interface, and this was exchanged so far. -/
structure Holding (identity : Interface.Identity) (held : Option Queues) (up : Bool) (trace : List Exchange)
    (driven : Driven (Recorded σ)) : Prop where
  identity : driven.iface.identity = identity
  queues : driven.iface.pool.queues = held
  isUp : driven.iface.isUp = up
  trace : driven.backend.trace = trace

namespace Holding

variable {backend : Backend σ} {identity : Interface.Identity} {held : Option Queues} {up : Bool}
  {trace : List Exchange} {driven : Driven (Recorded σ)}

/-- Only asking for queues and returning them leaves a note. -/
theorem unnoted (call : Call ε σ α) :
    (onBackend (call.zoom Recorded.state Recorded.put)).Keeps (Holding identity held up trace) := by
  intro driven before
  simp only [ensures_onBackend, ensures_zoom]
  unfold Ensures
  split <;> exact ⟨before.identity, before.queues, before.isUp, before.trace⟩

theorem lasting : Lasting backend.recorded (Holding identity held up trace) where
  settings _ _ _ _ _ before := ⟨before.identity, before.queues, before.isUp, before.trace⟩
  counters _ _ before := ⟨before.identity, before.queues, before.isUp, before.trace⟩
  readStat driven stat before := unnoted (backend.readStat _ stat) driven before
  write driven queues frame _ _ before := unnoted (backend.write queues.tx frame) driven before

theorem retained : Retained backend.recorded (Holding identity held up trace) where
  toUnobserved := lasting.toUnobserved
  request name change := unnoted (backend.request name change)
  restore _ _ before := ⟨before.identity, before.queues, before.isUp, before.trace⟩

theorem prepare (origin : Origin) (mac : Mac) :
    (Driven.prepare backend.recorded origin mac).Keeps (Holding identity held up trace) :=
  prepare_keeps (fun _ => unnoted (backend.mtu _)) (fun _ => unnoted (backend.mac _))
    (fun _ _ before => ⟨before.identity, before.queues, before.isUp, before.trace⟩) origin mac

theorem commit (origin : Origin) (mac : Mac) :
    (Driven.commit backend.recorded origin mac).Keeps (Holding identity held up trace) :=
  ((prepare origin mac).mapError _).bind fun _ => iface?_keeps.bind fun _ =>
    (retained.runSteps _ _ _).bind fun _ _ before => before

/-- Queues that are held are returned, whether or not the backend fails to close them. -/
theorem releaseQueues {queues : Queues} (before : Holding identity (some queues) up trace driven) :
    (Driven.releaseQueues backend.recorded).Ensures
      (fun _ => Holding identity none up (trace ++ [.returned identity.name queues]))
      (fun _ => Holding identity none up (trace ++ [.returned identity.name queues])) driven := by
  obtain ⟨rfl, held, rfl, rfl⟩ := before
  simp only [Driven.releaseQueues, ensures_bind, ensures_iface?, held, ensures_update, ensures_onBackend]
  unfold Ensures
  split <;> exact ⟨rfl, rfl, rfl, rfl⟩

theorem rollBack {queues : Queues} (before : Holding identity (some queues) up trace driven) (undo : List Request) :
    (Driven.rollBack backend.recorded undo : Call ε (Driven (Recorded σ)) Unit).Ensures
      (fun _ => Holding identity none up (trace ++ [.returned identity.name queues])) (fun _ _ => False) driven := by
  simp only [Driven.rollBack, ensures_bind, ensures_iface?]
  refine (retained.takeBack _ undo before).mono (fun _ after still => ?_) fun _ _ never => never
  simp only [ensures_bind, ensures_attempt]
  exact still.releaseQueues.mono (fun _ _ released => released) fun _ _ released => released

theorem acquire (before : Holding identity held up trace driven) (name : String) (kind : Kind) :
    (onBackend (backend.recorded.acquire name kind)).Ensures
      (fun queues => Holding identity held up (trace ++ [.asked name kind (some queues)]))
      (fun _ => Holding identity held up (trace ++ [.asked name kind none])) driven := by
  have told : ((backend.recorded.acquire name kind) driven.backend).state.trace
      = trace ++ [.asked name kind ((backend.recorded.acquire name kind) driven.backend).result.toOption] :=
    congrArg (· ++ [_]) before.trace
  simp only [ensures_onBackend]
  unfold Ensures
  split
  · rename_i queues answer
    exact ⟨before.identity, before.queues, before.isUp, by rw [told, answer]; rfl⟩
  · rename_i error answer
    exact ⟨before.identity, before.queues, before.isUp, by rw [told, answer]; rfl⟩

end Holding

end VirtualLink
