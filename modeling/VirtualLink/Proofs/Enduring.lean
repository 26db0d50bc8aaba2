import VirtualLink.Proofs.TearDown

namespace VirtualLink

open Call Driven

variable {ε σ α : Type}

/-- What an interface is created with, and no call changes. -/
structure Interface.Identity where
  name : String
  id : UInt32
  kind : Kind
  root : RootId

def Interface.identity (iface : Interface) : Identity :=
  ⟨iface.name, iface.id, iface.kind, iface.pool.root⟩

namespace Driven

variable {backend : Backend σ} {kept : Driven σ → Prop}

/-- A property that every call of the backend keeps. Of the interface only what it was created with has a part in it. -/
structure Enduring (backend : Backend σ) (kept : Driven σ → Prop) : Prop where
  iface : ∀ driven iface, iface.identity = driven.iface.identity → kept driven → kept { driven with iface }
  acquire : ∀ name kind, (onBackend (backend.acquire name kind)).Keeps kept
  release : ∀ name queues, (onBackend (backend.release name queues)).Keeps kept
  mac : ∀ name, (onBackend (backend.mac name)).Keeps kept
  mtu : ∀ name, (onBackend (backend.mtu name)).Keeps kept
  request : ∀ name change, (onBackend (backend.request name change)).Keeps kept
  readStat : ∀ name stat, (onBackend (backend.readStat name stat)).Keeps kept
  read : ∀ descriptor limit, (onBackend (backend.read descriptor limit)).Keeps kept
  write : ∀ descriptor frame, (onBackend (backend.write descriptor frame)).Keeps kept

namespace Enduring

theorem lasting (enduring : Enduring backend kept) : Lasting backend kept where
  settings state iface settings mtuChosen _ before :=
    enduring.iface ⟨iface, state⟩ { iface with settings, mtuChosen } rfl before
  counters driven counters before := enduring.iface driven { driven.iface with counters } rfl before
  readStat driven stat before := enduring.readStat _ stat driven before
  write driven queues frame _ _ before := enduring.write queues.tx frame driven before

theorem retained (enduring : Enduring backend kept) : Retained backend kept where
  toUnobserved := enduring.lasting.toUnobserved
  request := enduring.request
  restore driven restore before := enduring.iface driven { driven.iface with restore } rfl before

theorem releaseQueues (enduring : Enduring backend kept) : (Driven.releaseQueues backend).Keeps kept :=
  releaseQueues_keeps enduring.release fun driven before => enduring.iface driven _ rfl before

theorem bringUp (enduring : Enduring backend kept) (mac : Mac) : (Driven.bringUp backend mac).Keeps kept := by
  refine iface?_keeps.bind fun iface => (enduring.acquire _ _).attempt.bind fun opened => ?_
  cases opened with
  | error error => exact (Keeps.log _).bind fun _ => (Keeps.log _).bind fun _ _ before => before
  | ok queues =>
    have prepare : (Driven.prepare backend queues.origin mac).Keeps kept :=
      prepare_keeps enduring.mtu enduring.mac (fun driven _ before => enduring.iface driven _ rfl before) _ _
    have commit : (Driven.commit backend queues.origin mac).Keeps kept :=
      (prepare.mapError _).bind fun _ => iface?_keeps.bind fun _ =>
        (enduring.retained.runSteps _ _ _).bind fun _ _ before => before
    refine (Keeps.log _).bind fun _ => Keeps.bind (fun driven before => enduring.iface driven _ rfl before) fun _ =>
      commit.attempt.bind fun made => ?_
    cases made with
    | ok plan => exact fun _ before => before
    | error setback =>
      have takeBack (name : String) (undo : List Request) :
          (onBackend (backend.takeBack name undo) : Call Error (Driven σ) Unit).Keeps kept := fun _ before =>
        (enduring.retained.takeBack name undo before).mono (fun _ _ still => still) fun _ _ never => never.elim
      have rollBack : (Driven.rollBack backend setback.undo : Call Error (Driven σ) Unit).Keeps kept :=
        rollBack_keeps takeBack enduring.releaseQueues _
      exact (Keeps.log _).bind fun _ => rollBack.bind fun _ => (Keeps.log _).bind fun _ _ before => before

theorem up (enduring : Enduring backend kept) : (Driven.up backend).Keeps kept := by
  refine iface?_keeps.bind fun iface => ?_
  split
  · exact fun _ before => before
  · exact (Keeps.check _).bind fun _ => (Keeps.log _).bind fun _ => (enduring.bringUp _).bind fun _ =>
      Keeps.bind (fun driven before => enduring.iface driven _ rfl before) fun _ => Keeps.log _

theorem down (enduring : Enduring backend kept) : (Driven.down backend).Keeps kept := by
  intro driven before
  cases up : driven.iface.isUp with
  | false => exact down_refused up before
  | true =>
    refine enduring.retained.down enduring.releaseQueues (fun driven counters closed => ?_) up before
    exact enduring.iface driven { driven.iface with counters, isUp := false } rfl closed

/-- Every action keeps what every call of the backend keeps. -/
theorem call (enduring : Enduring backend kept) (action : Action) : (action.call backend).Keeps kept := by
  cases action with
  | up => exact enduring.up.map _
  | down => exact enduring.down.map _
  | receive =>
    refine Keeps.map _ (Lasting.receive fun driven queues _ _ before => ?_)
    refine (enduring.read _ _ driven before).mono (fun frame after still => ?_) fun _ _ still => still
    exact enduring.iface after { after.iface with pool := after.iface.pool.store frame } rfl still
  | _ => exact enduring.lasting.call _ (by simp) (by simp) (by simp)

theorem run (enduring : Enduring backend kept) (actions : List Action) {start : Driven σ} (before : kept start) :
    kept (Action.run backend actions start) := by
  induction actions generalizing start with
  | nil => exact before
  | cons action rest ih => exact ih ((enduring.call action).after before)

end Enduring

/-- This is what the interface was created with. -/
def Identified (identity : Interface.Identity) (driven : Driven σ) : Prop :=
  driven.iface.identity = identity

/-- No backend has a part in what an interface was created with. -/
theorem Identified.enduring {identity : Interface.Identity} : Enduring backend (Identified identity) where
  iface _ _ same before := same.trans before
  acquire _ _ := onBackend_keeps_iface (Interface.identity · = identity) _
  release _ _ := onBackend_keeps_iface (Interface.identity · = identity) _
  mac _ := onBackend_keeps_iface (Interface.identity · = identity) _
  mtu _ := onBackend_keeps_iface (Interface.identity · = identity) _
  request _ _ := onBackend_keeps_iface (Interface.identity · = identity) _
  readStat _ _ := onBackend_keeps_iface (Interface.identity · = identity) _
  read _ _ := onBackend_keeps_iface (Interface.identity · = identity) _
  write _ _ := onBackend_keeps_iface (Interface.identity · = identity) _

/-- No action changes what an interface was created with. -/
theorem identity_run (actions : List Action) (start : Driven σ) :
    (Action.run backend actions start).iface.identity = start.iface.identity := by
  have kept : Enduring backend (Identified start.iface.identity) := Identified.enduring
  exact kept.run actions rfl

end Driven

end VirtualLink
