import VirtualLink.Kernel
import VirtualLink.MemoryLink.Bench
import VirtualLink.System.Machine
import VirtualLink.System.Observed

namespace VirtualLink

/-- Links in memory beside a simulated machine, in one process. A queue can be released through any of them, and then
closes where it belongs. -/
structure Workbench where
  /-- The links in the order of their numbers. -/
  links : List Bench := []
  machine : Observed Machine := { inner := .fresh }

/-- What drives an interface: a link of the workbench, or its machine. -/
inductive Drive
  | memory (link : Nat)
  | kernel (control : Kernel.Control)

namespace Workbench

variable {ε α : Type}

def bench (number : Nat) (work : Workbench) : Bench :=
  (work.links[number]?).getD {}

def putBench (number : Nat) (link : Bench) (work : Workbench) : Workbench :=
  { work with links := work.links.set number link }

/-- Adds a link and tells its number. -/
def addLink (link : Bench) : Call ε Workbench Nat := do
  let number := (← Call.get).links.length
  Call.modify fun work => { work with links := work.links ++ [{ link with link.id := number }] }
  return number

def onBench (number : Nat) (call : Call ε Bench α) : Call ε Workbench α :=
  call.zoom (bench number) (putBench number)

def onMachine (call : Call ε (Observed Machine) α) : Call ε Workbench α :=
  call.zoom Workbench.machine fun machine work => { work with machine }

/-- How often an opening is tried again. Only a call that was told to fail is interrupted, and that once. -/
def openAgain : Nat := 1

/-- The machine under observation. A descriptor of a link in memory is none of its concern, and closes unseen. -/
def system : System Workbench
  | .close ⟨.pair link, number⟩ =>
    onBench link (Bench.onLink (Call.modify (MemoryLink.close ⟨.pair link, number⟩)))
  | .close ⟨.broken _, _⟩ => pure ()
  | call => onMachine ((Observed.system Machine.system).persistent openAgain call)

/-- Releases queues through a link in memory, wherever they belong. -/
def release (link : Nat) (name : String) (queues : Queues) : Call Error Workbench Unit := do
  let withdrawal ← (onBench link (Bench.withdraw name)).attempt
  let closing ← (Kernel.blame "close link queues" name (Kernel.closeQueues system queues)).attempt
  Call.ofExcept withdrawal
  Call.ofExcept closing
  onBench link (Bench.onLink (Call.modify (MemoryLink.record .release)))

def backend : Drive → Backend Workbench
  | .memory link => { Bench.backend.zoom (bench link) (putBench link) with release := release link }
  | .kernel control => Kernel.backend system control

/-- Drops queues that nobody releases. -/
def dropQueues (queues : Queues) : Call ε Workbench Unit := do
  discard (Kernel.closeQueues system queues).attempt

/-- Drops what drives an interface. -/
def dropDrive : Drive → Call ε Workbench Unit
  | .memory _ => pure ()
  | .kernel control => Kernel.closeControl system control

end Workbench

end VirtualLink
