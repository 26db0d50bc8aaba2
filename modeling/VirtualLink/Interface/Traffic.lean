import VirtualLink.Interface
import VirtualLink.Packet

namespace VirtualLink.Driven

open Call

variable {σ : Type}

/-- The queues of an interface that is up. -/
def requireQueues (action : String) : Call Error (Driven σ) Queues := do
  let iface ← iface?
  match iface.pool.queues, iface.isUp with
  | some queues, true => return queues
  | _, _ => fail (iface.stateError action)

/-- Sends the payload as one frame. It has to hold a minimal datagram and to fit the MTU. -/
def send (backend : Backend σ) (packet : Packet) : Call Error (Driven σ) Unit := do
  let queues ← requireQueues "send"
  let iface ← iface?
  if packet.length < minMtu.toNat then fail (Packet.refusal packet.length .packetTooSmall)
  else if packet.length > iface.settings.mtu.toNat then fail (Packet.refusal packet.length .packetTooLarge)
  else
    match ← (onBackend (backend.write queues.tx packet.payload)).attempt with
    | .error errno => fail (.os "write packet" iface.name (.errno errno))
    | .ok written =>
      if written ≠ packet.length then fail (.shortWrite iface.name written packet.length)
      else log (.sent packet.length iface.name)

/-- Takes the next frame, without waiting: an empty packet if there is none. -/
def receive (backend : Backend σ) : Call Error (Driven σ) Packet := do
  let queues ← requireQueues "receive"
  let iface ← iface?
  match ← (onBackend (backend.read queues.rx iface.pool.used)).attempt with
  | .error errno =>
    if errno = .wouldBlock then return Packet.empty
    else fail (.os "read packet" iface.name (.errno errno))
  | .ok frame =>
    onPool (Call.modify (Pool.store frame))
    if frame.length > maxPayload then fail (.frameTooLarge frame.length)
    else
      log (.received frame.length iface.name)
      ofExcept (Packet.ofPayload frame)

end VirtualLink.Driven
