import VirtualLink.Interface.BringUp
import VirtualLink.Interface.Statistics

namespace VirtualLink

/-- What takes the settings off the link, the last address first. -/
def Settings.retractions (settings : Settings) : List Request :=
  .setAdmin false :: settings.ipv6.reverse.map (.delIpv6 · ipv6PrefixLength)
    ++ (settings.ipv4.map fun _ => Request.clearIpv4).toList

/-- What gives an attached link back what it had. -/
def Restore.requests (restore : Restore) : List Request :=
  .setMtu restore.mtu :: (restore.mac.map .setMac).toList

namespace Driven

open Call

variable {ε σ : Type}

/-- Closes the queues and answers with their origin, and with the error if closing failed. -/
def closeLink (backend : Backend σ) : Call ε (Driven σ) (Origin × Option Error) := do
  let iface ← iface?
  let origin := (iface.pool.queues.map Queues.origin).getD .created
  match ← (releaseQueues backend).attempt with
  | .ok () => return (origin, none)
  | .error error =>
    log (.teardownFailed iface.name error)
    return (origin, some error)

/-- Takes a look at the counters while the link is still there. -/
def lastLook (backend : Backend σ) : Call ε (Driven σ) Unit := do
  match ← (observeAll backend Stat.all).attempt with
  | .ok () => pure ()
  | .error error => log (.snapshotFailed (← iface?).name error)

/-- Takes the settings off the link and closes it. Every step is made, the interface ends down, and the first
failure is the answer. -/
def down (backend : Backend σ) : Call Error (Driven σ) Unit := do
  let iface ← iface?
  if ¬ iface.isUp then fail (iface.stateError "down")
  else
    log (.bringingDown iface.name)
    lastLook backend
    let retracting ← onBackend (backend.requestAll iface.name iface.settings.retractions)
    let restoring ←
      match iface.restore with
      | none => pure none
      | some restore => do
        update fun iface => { iface with restore := none }
        let refused ← onBackend (backend.requestAll iface.name restore.requests)
        log (.mtuRestored restore.mtu iface.name)
        pure refused
    let (origin, closing) ← closeLink backend
    update fun iface => { iface with counters := iface.counters.retire origin, isUp := false }
    log (.isDown iface.name)
    match retracting <|> restoring <|> closing with
    | some error => fail error
    | none => pure ()

end Driven

end VirtualLink
