import VirtualLink.Kernel
import VirtualLink.Proofs.Mirroring

namespace VirtualLink

open Call

variable {ε κ τ α : Type}

namespace Kernel

/-- Only opening its file has a part in reading a counter. -/
theorem readStat_leaves {system : System κ} {view : κ → τ}
    (look : ∀ path, (system (.openFile path)).Leaves view) (name stat : String) :
    (readStat system name stat).Leaves view := fun held =>
  .ite _ (fun _ before => before)
    (((look _ held).mapError _).bind fun _ => .ofExcept _)

section

variable {view : τ → κ} {whole : System τ} {part : System κ}
  (same : ∀ call, Call.Mirrors view (whole call) (part call))

include same

theorem discardDescriptor_mirrors (descriptor : Descriptor) :
    Call.Mirrors view (discardDescriptor whole descriptor : Call ε τ Unit) (discardDescriptor part descriptor) :=
  (same _).attempt.map _

theorem orDiscard_mirrors (descriptor : Descriptor) {call : Call ε τ α} {call' : Call ε κ α}
    (mirrors : Call.Mirrors view call call') :
    Call.Mirrors view (orDiscard whole descriptor call) (orDiscard part descriptor call') := by
  refine mirrors.attempt.bind fun result => ?_
  cases result with
  | ok a => exact .pure a
  | error error => exact (discardDescriptor_mirrors same descriptor).bind fun _ => .fail error

theorem linkIndex_mirrors (socket : Descriptor) (name : String) :
    Call.Mirrors view (linkIndex whole socket name) (linkIndex part socket name) :=
  (same _).mapError _

theorem bindPacketSocket_mirrors (name : String) :
    Call.Mirrors view (bindPacketSocket whole name) (bindPacketSocket part name) :=
  ((same _).mapError _).bind fun _ => orDiscard_mirrors same _ ((linkIndex_mirrors same _ _).bind fun _ =>
    ((same _).mapError _).bind fun _ => .pure _)

theorem linkExists_mirrors (name : String) :
    Call.Mirrors view (linkExists whole name : Call ε τ Bool) (linkExists part name) := by
  refine .ite _ (.pure _) ((same _).attempt.bind fun result => ?_)
  cases result with
  | ok => exact .pure _
  | error => exact .pure _

theorem openQueue_mirrors (name : String) (kind : Kind) :
    Call.Mirrors view (openQueue whole name kind) (openQueue part name kind) :=
  ((same _).mapError _).bind fun _ =>
    orDiscard_mirrors same _ (((same _).mapError _).bind fun _ => .pure _)

theorem acquire_mirrors (name : String) (kind : Kind) :
    Call.Mirrors view (acquire whole name kind) (acquire part name kind) := by
  refine (linkExists_mirrors same name).bind fun there => ?_
  cases there with
  | true =>
    exact (Call.Mirrors.log _).bind fun _ => (bindPacketSocket_mirrors same name).bind fun _ =>
      (orDiscard_mirrors same _ (bindPacketSocket_mirrors same name)).bind fun _ =>
      (Call.Mirrors.log _).bind fun _ => .pure _
  | false =>
    exact (Call.Mirrors.log _).bind fun _ => (openQueue_mirrors same name kind).bind fun _ =>
      (orDiscard_mirrors same _ (openQueue_mirrors same name kind)).bind fun _ => .pure _

theorem closeQueues_mirrors (queues : Queues) :
    Call.Mirrors view (closeQueues whole queues) (closeQueues part queues) :=
  (same _).attempt.bind fun _ => (same _).attempt.bind fun _ =>
    ((Call.Mirrors.ofExcept _).map _).bind fun _ => (Call.Mirrors.ofExcept _).map _

theorem release_mirrors (name : String) (queues : Queues) :
    Call.Mirrors view (release whole name queues) (release part name queues) :=
  ((closeQueues_mirrors same queues).mapError _).bind fun _ => .ite _ (.log _) (.pure _)

theorem setAdmin_mirrors (control : Control) (name : String) (up : Bool) :
    Call.Mirrors view (setAdmin whole control name up) (setAdmin part control name up) :=
  ((same _).mapError _).bind fun _ => (same _).mapError _

theorem ask_mirrors (control : Control) (name action : String) (call : LinkCall) :
    Call.Mirrors view (request.ask whole control name action call) (request.ask part control name action call) :=
  ((same _).map _).mapError _

theorem request_mirrors (control : Control) (name : String) :
    ∀ change, Call.Mirrors view (request whole control name change) (request part control name change)
  | .setMac _ | .setMtu _ | .setIpv4 _ | .setNetmask _ | .setBroadcast _ | .clearIpv4 => ask_mirrors same _ _ _ _
  | .addIpv6 _ _ | .delIpv6 _ _ => (linkIndex_mirrors same _ _).bind fun _ => (same _).mapError _
  | .setAdmin _ => setAdmin_mirrors same _ _ _

theorem readStat_mirrors (name stat : String) :
    Call.Mirrors view (readStat whole name stat) (readStat part name stat) :=
  .ite _ (.fail _) (((same _).mapError _).bind fun _ => .ofExcept _)

/-- What a system does is all that matters of it. -/
theorem backend_mirrors (control : Control) : Backend.Mirrors view (backend whole control) (backend part control) where
  acquire := acquire_mirrors same
  release := release_mirrors same
  mac _ := (same _).mapError _
  mtu _ := (same _).mapError _
  request := request_mirrors same control
  readStat := readStat_mirrors same
  read _ _ := same _
  write _ _ := same _

end

end Kernel

end VirtualLink
