import Mathlib.Data.Multiset.AddSub
import VirtualLink.Proofs.Kernel.Calls

namespace VirtualLink

open Call

variable {ε κ τ α : Type}

/-- What becomes of a descriptor of a system. -/
inductive Handling
  | opened (descriptor : Descriptor)
  | closed (descriptor : Descriptor)
deriving DecidableEq

namespace Handling

/-- Descriptors are opened one after the other, and closed again from the last to the first. -/
def undone (descriptors : List Descriptor) : List Handling :=
  descriptors.map .opened ++ descriptors.reverse.map .closed

theorem opened_undone_closed (first : Descriptor) (rest : List Descriptor) :
    .opened first :: (undone rest ++ [.closed first]) = undone (first :: rest) := by
  simp [undone]

/-- What is open afterwards. Nothing is closed that is not open. -/
def handle (held : Multiset Descriptor) : Handling → Option (Multiset Descriptor)
  | .opened descriptor => some (descriptor ::ₘ held)
  | .closed descriptor => if descriptor ∈ held then some (held.erase descriptor) else none

def replay (held : Multiset Descriptor) (handlings : List Handling) : Option (Multiset Descriptor) :=
  handlings.foldlM handle held

theorem replay_append (held : Multiset Descriptor) (earlier later : List Handling) :
    replay held (earlier ++ later) = (replay held earlier).bind fun between => replay between later :=
  List.foldlM_append

theorem replay_opened (held : Multiset Descriptor) (descriptors : List Descriptor) :
    replay held (descriptors.map .opened) = some (descriptors + held) := by
  induction descriptors generalizing held with
  | nil => simp [replay]
  | cons first rest ih =>
    change replay (first ::ₘ held) (rest.map .opened) = _
    rw [ih, Multiset.add_cons, ← Multiset.cons_coe, Multiset.cons_add]

theorem replay_closed (held : Multiset Descriptor) (descriptors : List Descriptor) :
    replay (descriptors + held) (descriptors.map .closed) = some held := by
  induction descriptors with
  | nil => simp [replay]
  | cons first rest ih =>
    have closed : handle (↑(first :: rest) + held) (.closed first) = some (↑rest + held) := by
      simp [handle, ← Multiset.cons_coe, Multiset.cons_add]
    change (handle _ _).bind (fun between => replay between (rest.map .closed)) = _
    rw [closed]
    exact ih

/-- What was opened and closed again leaves what was open before. -/
theorem replay_undone (held : Multiset Descriptor) (descriptors : List Descriptor) :
    replay held (undone descriptors) = some held := by
  rw [undone, replay_append, replay_opened, ← Multiset.coe_reverse, Option.bind_some, replay_closed]

end Handling

/-- A close that fails has closed nevertheless. -/
def Syscall.handling? : (call : Syscall) → Except Errno call.Answer → Option Handling
  | .socket _, .ok descriptor => some (.opened descriptor)
  | .openTun, .ok descriptor => some (.opened descriptor)
  | .close descriptor, _ => some (.closed descriptor)
  | _, _ => none

/-- The state of a system, with what became of its descriptors so far, oldest first. -/
structure Handled (κ : Type) where
  state : κ
  handlings : List Handling

/-- The same system, with a record of the descriptors that it gives and takes back. -/
def System.handled (system : System κ) : System (Handled κ) := fun call whole =>
  let reply := system call whole.state
  ⟨reply.result, ⟨reply.state, whole.handlings ++ (call.handling? reply.result).toList⟩, reply.events⟩

/-- To keep a record changes nothing else. -/
theorem System.handled_mirrors (system : System κ) (call : Syscall) :
    Call.Mirrors Handled.state (system.handled call) (system call) :=
  fun _ => rfl

end VirtualLink
