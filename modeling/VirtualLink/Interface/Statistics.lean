import VirtualLink.Interface

namespace VirtualLink.Driven

open Call

variable {σ : Type}

/-- Looks at one counter of the link. A link that is down has nothing to look at. -/
def observe (backend : Backend σ) (stat : Stat) : Call Error (Driven σ) Unit := do
  let iface ← iface?
  if iface.isUp then
    let reading ← onBackend (backend.readStat iface.name stat.name)
    update fun iface => { iface with counters := iface.counters.observe stat reading }

/-- Looks at the counters in order, up to the first that cannot be read. -/
def observeAll (backend : Backend σ) : List Stat → Call Error (Driven σ) Unit
  | [] => pure ()
  | stat :: rest => do
    observe backend stat
    observeAll backend rest

def readStat (backend : Backend σ) (name : String) : Call Error (Driven σ) UInt64 := do
  let stat ← ofExcept (Stat.ofName name)
  observe backend stat
  return (← iface?).counters.value stat

/-- Lets the counter start over for this interface; the link counts on. -/
def clearStat (backend : Backend σ) (name : String) : Call Error (Driven σ) Unit := do
  let stat ← ofExcept (Stat.ofName name)
  observe backend stat
  update fun iface => { iface with counters := iface.counters.clear stat }
  log (.statCleared (← iface?).name stat.name)

/-- Every counter with its value. -/
def snapshot (backend : Backend σ) : Call Error (Driven σ) (List (String × UInt64)) := do
  observeAll backend Stat.all
  return (← iface?).counters.listing

end VirtualLink.Driven
