import VirtualLink.Proofs.Ensures
import VirtualLink.Workbench

namespace VirtualLink

open Call

variable {κ α : Type}

section

variable {call : Call Errno κ α} {state : κ}

/-- A call that is not interrupted is made once, however often it may be tried again. -/
theorem retryInterrupted_eq (settled : (call state).result ≠ .error .interrupted) (again : Nat) :
    retryInterrupted call again state = call state := by
  cases again with
  | zero => rfl
  | succ again =>
    rw [retryInterrupted]
    change Call.bind (Call.attempt call) _ state = call state
    simp only [Call.bind, Call.attempt]
    rcases answer : call state with ⟨error | a, after, events⟩
    · have other : error ≠ .interrupted := fun same => settled (by rw [answer, same])
      simp [other, Call.fail]
    · simp [pure, Call.pure]

/-- A call that is interrupted is made again right after that. -/
theorem retryInterrupted_of_interrupted (interrupted : (call state).result = .error .interrupted) (again : Nat) :
    let later := retryInterrupted call again (call state).state
    retryInterrupted call (again + 1) state = ⟨later.result, later.state, (call state).events ++ later.events⟩ := by
  rw [retryInterrupted]
  change Call.bind (Call.attempt call) _ state = _
  simp only [Call.bind, Call.attempt, interrupted, if_true]

end

def Syscall.opens : Syscall → Bool
  | .openTun | .openFile _ => true
  | _ => false

/-- No opening is interrupted twice in a row. -/
def System.InterruptsOnce (system : System κ) : Prop :=
  ∀ call : Syscall, call.opens → ∀ state, (system call state).result = .error .interrupted →
    (system call (system call state).state).result ≠ .error .interrupted

/-- Where no opening is interrupted twice in a row, one more try is as good as any number of them. -/
theorem System.persistent_eq {system : System κ} (once : system.InterruptsOnce) (again : Nat) :
    system.persistent (again + 1) = system.persistent 1 := by
  have settles (call : Syscall) (opens : call.opens) :
      retryInterrupted (system call) (again + 1) = retryInterrupted (system call) 1 := by
    funext state
    by_cases interrupted : (system call state).result = .error .interrupted
    · have settled := once call opens state interrupted
      rw [retryInterrupted_of_interrupted interrupted, retryInterrupted_of_interrupted interrupted,
        retryInterrupted_eq settled, retryInterrupted_eq settled]
    · rw [retryInterrupted_eq interrupted, retryInterrupted_eq interrupted]
  funext call
  cases call with
  | openTun => exact settles .openTun rfl
  | openFile path => exact settles (.openFile path) rfl
  | _ => rfl

namespace Observed

variable {system : System κ} {call : Syscall}

/-- Under observation an opening is interrupted only by an order to fail, which is spent by that. -/
theorem perform_ensures (opens : call.opens)
    (calm : ∀ state, (system call).Ensures (fun _ _ => True) (fun errno _ => errno ≠ .interrupted) state)
    (observed : Observed κ) :
    (perform system call).Ensures (fun _ _ => True)
      (fun errno after => errno = .interrupted → observed.armed ≠ none ∧ after.armed = none) observed := by
  have onInner : ((system call).zoom Observed.inner fun inner observed => { observed with inner }).Ensures
      (fun _ _ => True) (fun errno after => errno = .interrupted → observed.armed ≠ none ∧ after.armed = none)
      observed :=
    (ensures_zoom _ _ _).mpr ((calm observed.inner).mono (fun _ _ _ => trivial) fun _ _ other same => absurd same other)
  simp only [perform, ensures_bind, ensures_get]
  split
  · rename_i name errno armed
    split
    · cases call with
      | openTun | openFile => exact fun _ => ⟨by simp [armed], rfl⟩
      | _ => cases opens
    · exact onInner
  · exact onInner

theorem opening_ensures (opens : call.opens)
    (calm : ∀ state, (system call).Ensures (fun _ _ => True) (fun errno _ => errno ≠ .interrupted) state)
    (observed : Observed κ) :
    (Observed.system system call).Ensures (fun _ _ => True)
      (fun errno after => errno = .interrupted → observed.armed ≠ none ∧ after.armed = none) observed := by
  simp only [Observed.system, ensures_bind, ensures_attempt]
  exact (perform_ensures opens calm observed).mono (fun _ _ _ => trivial) fun _ _ spent => spent

theorem interruptsOnce (calm : ∀ call : Syscall, call.opens → ∀ state,
    (system call).Ensures (fun _ _ => True) (fun errno _ => errno ≠ .interrupted) state) :
    (Observed.system system).InterruptsOnce := by
  intro call opens observed interrupted again
  have first := (opening_ensures opens (calm call opens) observed).of_error interrupted rfl
  have second := (opening_ensures opens (calm call opens) _).of_error again rfl
  exact second.1 first.2

end Observed

namespace Workbench

/-- No opening of a workbench is tried too few times. -/
theorem persistent_eq_openAgain (again : Nat) :
    (Observed.system Machine.system).persistent (again + 1)
      = (Observed.system Machine.system).persistent openAgain := by
  refine System.persistent_eq (Observed.interruptsOnce fun call opens machine => ?_) again
  cases call with
  | openTun => exact trivial
  | openFile path =>
    refine (ensures_bind _ _).mpr (ensures_get.mpr ?_)
    split
    · exact trivial
    · exact trivial
    · exact (ensures_fail _).mpr (by decide)
  | _ => cases opens

end Workbench

end VirtualLink
