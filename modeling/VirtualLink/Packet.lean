import VirtualLink.Bytes
import VirtualLink.Error

namespace VirtualLink

/-- The longest payload that a length of one byte can tell. -/
def maxPayload : Nat := 255

/-- A payload that fits behind its length. -/
structure Packet where
  payload : Bytes
  fits : payload.length ≤ maxPayload
deriving DecidableEq

namespace Packet

def refusal (length : Nat) (rule : Rule) : Error :=
  .violation ⟨.packet, s!"{length} bytes", rule⟩

/-- No payload, as when nothing is pending. -/
def empty : Packet :=
  ⟨[], by decide⟩

instance : Inhabited Packet := ⟨empty⟩

def length (packet : Packet) : Nat :=
  packet.payload.length

def isEmpty (packet : Packet) : Bool :=
  packet.length == 0

/-- The length in one byte, then the payload. -/
def wire (packet : Packet) : Bytes :=
  UInt8.ofNat packet.length :: packet.payload

def ofPayload (payload : Bytes) : Except Error Packet :=
  if fits : payload.length ≤ maxPayload then .ok ⟨payload, fits⟩
  else .error (refusal payload.length .packetTooLarge)

/-- Accepts a frame whose first byte is the length of the rest. -/
def ofWire : Bytes → Except Error Packet
  | [] => .error (refusal 0 .lengthPrefixMismatch)
  | head :: payload =>
    if agrees : head.toNat = payload.length then
      .ok ⟨payload, agrees ▸ Nat.le_of_lt_succ head.toNat_lt⟩
    else .error (refusal payload.length .lengthPrefixMismatch)

def debugText (packet : Packet) : String :=
  s!"PacketBuffer \x7b len: {packet.length} \x7d"

end Packet

end VirtualLink
