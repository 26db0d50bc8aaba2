import VirtualLink.Event
import VirtualLink.Settings

namespace VirtualLink

/-- What a call leaves behind: an answer or an error, a state in either case, and what it told the log. -/
structure Reply (ε σ α : Type) where
  result : Except ε α
  state : σ
  events : List Event

/-- A step on a state `σ`. An error stops what follows it, and keeps the changes made before it. -/
def Call (ε σ α : Type) : Type :=
  σ → Reply ε σ α

namespace Call

variable {ε ε' σ τ α β : Type}

protected def pure (a : α) : Call ε σ α :=
  fun state => ⟨.ok a, state, []⟩

protected def bind (call : Call ε σ α) (next : α → Call ε σ β) : Call ε σ β := fun state =>
  match call state with
  | ⟨.error error, after, events⟩ => ⟨.error error, after, events⟩
  | ⟨.ok a, after, events⟩ =>
    let rest := next a after
    ⟨rest.result, rest.state, events ++ rest.events⟩

instance : Monad (Call ε σ) where
  pure := Call.pure
  bind := Call.bind

def fail (error : ε) : Call ε σ α :=
  fun state => ⟨.error error, state, []⟩

protected def get : Call ε σ σ :=
  fun state => ⟨.ok state, state, []⟩

protected def modify (f : σ → σ) : Call ε σ Unit :=
  fun state => ⟨.ok (), f state, []⟩

def log (event : Event) : Call ε σ Unit :=
  fun state => ⟨.ok (), state, [event]⟩

def logAll (events : List Event) : Call ε σ Unit :=
  fun state => ⟨.ok (), state, events⟩

def ofExcept (result : Except ε α) : Call ε σ α :=
  fun state => ⟨result, state, []⟩

/-- Never fails: the outcome of the call becomes its answer. -/
def attempt (call : Call ε σ α) : Call ε' σ (Except ε α) := fun state =>
  let reply := call state
  ⟨.ok reply.result, reply.state, reply.events⟩

def mapError (f : ε → ε') (call : Call ε σ α) : Call ε' σ α := fun state =>
  let reply := call state
  ⟨reply.result.mapError f, reply.state, reply.events⟩

/-- Runs a call on a part of a larger state. -/
def zoom (part : τ → σ) (put : σ → τ → τ) (call : Call ε σ α) : Call ε τ α := fun whole =>
  let reply := call (part whole)
  ⟨reply.result, put reply.state whole, reply.events⟩

/-- Fails with a broken rule. -/
def check (result : Checked α) : Call Error σ α :=
  ofExcept (result.mapError Error.violation)

end Call

end VirtualLink
