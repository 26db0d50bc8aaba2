import VirtualLink.Pool

namespace VirtualLink

/-- The link operations that an interface is built on, over a state `σ`. They take values as they are; whoever
calls them has checked the values. -/
structure Backend (σ : Type) where
  /-- Creates the link, or attaches to it if it is there, and opens its queues. -/
  acquire : String → Kind → Call Error σ Queues
  /-- Closes queues that `acquire` opened. -/
  release : String → Queues → Call Error σ Unit
  mac : String → Call Error σ Mac
  mtu : String → Call Error σ UInt32
  request : String → Request → Call Error σ Unit
  /-- The present value of a counter of the link. -/
  readStat : String → String → Call Error σ UInt64
  /-- Takes the next frame, cut to a number of bytes. -/
  read : Descriptor → Nat → Call Errno σ Bytes
  /-- Sends a frame and tells how many of its bytes were taken. -/
  write : Descriptor → Bytes → Call Errno σ Nat

namespace Backend

variable {ε σ τ : Type}

/-- The same backend on a larger state. -/
def zoom (part : τ → σ) (put : σ → τ → τ) (backend : Backend σ) : Backend τ where
  acquire name kind := (backend.acquire name kind).zoom part put
  release name queues := (backend.release name queues).zoom part put
  mac name := (backend.mac name).zoom part put
  mtu name := (backend.mtu name).zoom part put
  request name change := (backend.request name change).zoom part put
  readStat name stat := (backend.readStat name stat).zoom part put
  read descriptor limit := (backend.read descriptor limit).zoom part put
  write descriptor frame := (backend.write descriptor frame).zoom part put

/-- Makes every request, whichever fail, and answers with the first error. -/
def requestAll (backend : Backend σ) (name : String) : List Request → Call ε σ (Option Error)
  | [] => pure none
  | change :: rest => do
    match ← (backend.request name change).attempt with
    | .ok () => backend.requestAll name rest
    | .error error =>
      Call.log (.teardownFailed name error)
      discard (backend.requestAll name rest)
      return some error

end Backend

end VirtualLink
