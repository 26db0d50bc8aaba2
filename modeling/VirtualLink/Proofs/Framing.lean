import VirtualLink.Proofs.Lasting

namespace VirtualLink

open Call

namespace Packet

variable {payload wire : Bytes} {packet : Packet}

theorem ofPayload_eq_ok_iff : ofPayload payload = .ok packet ↔ packet.payload = payload := by
  unfold ofPayload
  constructor
  · intro made
    split at made
    · cases made
      rfl
    · cases made
  · rintro rfl
    rw [dif_pos packet.fits]

theorem exists_ofPayload_iff : (∃ packet, ofPayload payload = .ok packet) ↔ payload.length ≤ 255 := by
  simp only [ofPayload_eq_ok_iff]
  constructor
  · rintro ⟨packet, rfl⟩
    exact packet.fits
  · intro fits
    exact ⟨⟨payload, fits⟩, rfl⟩

/-- One byte holds the length. -/
theorem toNat_length (packet : Packet) : (UInt8.ofNat packet.length).toNat = packet.length :=
  UInt8.toNat_ofNat_of_lt' (Nat.lt_succ_of_le packet.fits)

/-- A first byte that is the number of the others is the length in one byte. -/
theorem wire_eq_cons {head : UInt8} (agrees : head.toNat = packet.payload.length) :
    packet.wire = head :: packet.payload := by
  unfold wire length
  rw [← agrees, UInt8.ofNat_toNat]

theorem ofWire_eq_ok_iff : ofWire wire = .ok packet ↔ packet.wire = wire := by
  constructor
  · intro made
    cases wire with
    | nil => cases made
    | cons head payload =>
      by_cases agrees : head.toNat = payload.length
      · cases (dif_pos agrees).symm.trans made
        exact wire_eq_cons agrees
      · cases (dif_neg agrees).symm.trans made
  · rintro rfl
    exact dif_pos packet.toNat_length

theorem exists_ofWire_iff :
    (∃ packet, ofWire wire = .ok packet) ↔ ∃ head payload, wire = head :: payload ∧ head.toNat = payload.length := by
  constructor
  · rintro ⟨packet, made⟩
    obtain rfl := ofWire_eq_ok_iff.mp made
    exact ⟨_, _, rfl, packet.toNat_length⟩
  · rintro ⟨head, payload, rfl, agrees⟩
    exact ⟨_, dif_pos agrees⟩

theorem ofPayload_payload (packet : Packet) : ofPayload packet.payload = .ok packet :=
  ofPayload_eq_ok_iff.mpr rfl

theorem ofWire_wire (packet : Packet) : ofWire packet.wire = .ok packet :=
  ofWire_eq_ok_iff.mpr rfl

end Packet

/-! Packets as bare bytes, of which nothing is known but how they were made. -/

namespace Framing

/-- Puts the length in front, in one byte. -/
def ofPayload (payload : Bytes) : Except Error Bytes :=
  if payload.length > maxPayload then .error (Packet.refusal payload.length .packetTooLarge)
  else .ok (UInt8.ofNat payload.length :: payload)

/-- Takes bytes as they are if the first is the number of the others. -/
def ofWire (wire : Bytes) : Except Error Bytes :=
  match wire.head? with
  | some head => if head.toNat = wire.length - 1 then .ok wire
    else .error (Packet.refusal (wire.length - 1) .lengthPrefixMismatch)
  | none => .error (Packet.refusal (wire.length - 1) .lengthPrefixMismatch)

def empty : Bytes :=
  [0]

/-- The bytes from the second on; `none` if there is no first. -/
def payload? (buffer : Bytes) : Option Bytes :=
  if 1 ≤ buffer.length then some (buffer.drop 1) else none

/-- One less than there are bytes; `none` if that would be less than none. -/
def length? (buffer : Bytes) : Option Nat :=
  if 1 ≤ buffer.length then some (buffer.length - 1) else none

/-- The first byte is the length of a payload that can be had. -/
def Framed (buffer : Bytes) : Prop :=
  ∃ head payload, buffer.head? = some head ∧ payload? buffer = some payload ∧ length? buffer = some payload.length
    ∧ head.toNat = payload.length ∧ payload.length ≤ 255

theorem framed_cons {head : UInt8} {payload : Bytes} (agrees : head.toNat = payload.length) :
    Framed (head :: payload) :=
  ⟨head, payload, rfl, if_pos (Nat.le_add_left ..), if_pos (Nat.le_add_left ..), agrees,
    agrees ▸ Nat.le_of_lt_succ head.toNat_lt⟩

theorem framed_of_ofPayload {payload buffer : Bytes} (made : ofPayload payload = .ok buffer) : Framed buffer := by
  unfold ofPayload at made
  split at made
  · cases made
  · rename_i fits
    cases made
    exact framed_cons (UInt8.toNat_ofNat_of_lt' (Nat.lt_succ_of_le (Nat.not_lt.mp fits)))

theorem framed_of_ofWire {wire buffer : Bytes} (made : ofWire wire = .ok buffer) : Framed buffer := by
  cases wire with
  | nil => cases made
  | cons head payload =>
    by_cases agrees : head.toNat = payload.length
    · cases (if_pos agrees).symm.trans made
      exact framed_cons agrees
    · cases (if_neg agrees).symm.trans made

theorem ofWire_of_framed {buffer : Bytes} (framed : Framed buffer) : ofWire buffer = .ok buffer := by
  obtain ⟨head, payload, first, behind, -, agrees, -⟩ := framed
  cases buffer with
  | nil => cases first
  | cons _ _ =>
    cases first
    cases behind
    exact if_pos agrees

theorem ofPayload_payload (packet : Packet) : ofPayload packet.payload = .ok packet.wire :=
  if_neg (Nat.not_lt.mpr packet.fits)

theorem ofWire_wire (packet : Packet) : ofWire packet.wire = .ok packet.wire :=
  if_pos packet.toNat_length

/-- What is done to a packet is the same that is done to its bytes. -/
structure Agrees : Prop where
  equal (one other : Packet) : one.wire = other.wire ↔ one = other
  payload (payload : Bytes) : ofPayload payload = (Packet.ofPayload payload).map Packet.wire
  wire (wire : Bytes) : ofWire wire = (Packet.ofWire wire).map Packet.wire
  empty : Packet.empty.wire = empty
  default : (default : Packet) = Packet.empty
  behind (packet : Packet) : payload? packet.wire = some packet.payload
  length (packet : Packet) : length? packet.wire = some packet.length

theorem agrees : Agrees where
  equal one other := by
    constructor
    · intro same
      rw [Packet.mk.injEq]
      exact (List.cons.inj same).2
    · rintro rfl
      rfl
  payload payload := by
    unfold ofPayload Packet.ofPayload
    split
    · rename_i long
      rw [dif_neg (Nat.not_le.mpr long)]
      rfl
    · rename_i fits
      rw [dif_pos (Nat.not_lt.mp fits)]
      rfl
  wire wire := by
    cases wire with
    | nil => rfl
    | cons head payload =>
      by_cases agrees : head.toNat = payload.length
      · obtain ⟨packet, made⟩ := Packet.exists_ofWire_iff.mpr ⟨head, payload, rfl, agrees⟩
        rw [made, ← Packet.ofWire_eq_ok_iff.mp made]
        exact ofWire_wire packet
      · have refused : Packet.ofWire (head :: payload) = _ := dif_neg agrees
        rw [refused]
        exact if_neg agrees
  empty := rfl
  default := rfl
  behind packet := if_pos (Nat.le_add_left ..)
  length packet := if_pos (Nat.le_add_left ..)

variable {σ : Type}

/-- A packet that was received is empty, or framed from what now is at the front of the scratch buffer. -/
def Arrived (packet : Packet) (after : Driven σ) : Prop :=
  packet.wire = empty ∨ ofPayload (after.iface.pool.scratch.take packet.length) = .ok packet.wire

theorem receive_arrived (backend : Backend σ) (driven : Driven σ) :
    (Driven.receive backend).Ensures Arrived (fun _ _ => True) driven := by
  refine (ensures_bind _ _).mpr (Driven.requireQueues_ensures _ (fun queues _ _ => ?_) fun _ => trivial)
  simp only [ensures_bind, Driven.ensures_iface?, ensures_attempt]
  refine Ensures.of_forall (fun frame after => ?_) fun errno after => ?_
  · simp only [ensures_bind, Driven.ensures_onPool, ensures_modify, ensures_ite, ensures_fail, ensures_log]
    split
    · trivial
    · cases made : Packet.ofPayload frame with
      | error => trivial
      | ok packet =>
        obtain rfl := Packet.ofPayload_eq_ok_iff.mp made
        -- the frame lies in front of what is left of the buffer
        refine .inr ?_
        change ofPayload ((packet.payload ++ _).take packet.payload.length) = _
        rw [List.take_left]
        exact ofPayload_payload packet
  · simp only [ensures_ite, ensures_pure, ensures_fail]
    split
    · exact .inl rfl
    · trivial

/-- The bytes of some packet, however it was obtained. What is received or copied may come of any link, of any
interface and of any packet. -/
inductive Held : Bytes → Prop
  | empty : Held empty
  | default : Held (default : Packet).wire
  | ofPayload {payload buffer : Bytes} (made : ofPayload payload = .ok buffer) : Held buffer
  | ofWire {wire buffer : Bytes} (made : ofWire wire = .ok buffer) : Held buffer
  | receive {σ : Type} (backend : Backend σ) (driven : Driven σ) {packet : Packet}
      (received : (Driven.receive backend driven).result = .ok packet) : Held packet.wire
  | copy {buffer copied : Bytes} (held : Held buffer) (same : copied = buffer) : Held copied

theorem held_iff_framed {buffer : Bytes} : Held buffer ↔ Framed buffer := by
  constructor
  · intro held
    induction held with
    | empty => exact framed_cons rfl
    | default => exact framed_cons rfl
    | ofPayload made => exact framed_of_ofPayload made
    | ofWire made => exact framed_of_ofWire made
    | receive backend driven received =>
      cases (receive_arrived backend driven).of_ok received with
      | inl empty => exact empty ▸ framed_cons rfl
      | inr made => exact framed_of_ofPayload made
    | copy _ same framed => exact same ▸ framed
  · intro framed
    exact .ofWire (ofWire_of_framed framed)

end Framing

/-- A payload of at most 255 bytes and the frame that it is put in determine each other, and every packet that can
be had is such a frame. -/
theorem framing_bijective :
    (∀ payload, ((∃ packet, Packet.ofPayload payload = .ok packet) ↔ payload.length ≤ 255)
      ∧ ∀ packet, Packet.ofPayload payload = .ok packet
          ↔ packet.payload = payload ∧ Packet.ofWire packet.wire = .ok packet)
      ∧ (∀ wire, ((∃ packet, Packet.ofWire wire = .ok packet)
            ↔ ∃ head payload, wire = head :: payload ∧ head.toNat = payload.length)
          ∧ ∀ packet, Packet.ofWire wire = .ok packet
              ↔ packet.wire = wire ∧ Packet.ofPayload packet.payload = .ok packet)
      ∧ Framing.Agrees
      ∧ (∀ (σ : Type) (backend : Backend σ) (driven : Driven σ),
          (Driven.receive backend).Ensures Framing.Arrived (fun _ _ => True) driven)
      ∧ ∀ buffer, Framing.Held buffer ↔ Framing.Framed buffer := by
  refine ⟨fun payload => ⟨Packet.exists_ofPayload_iff, fun packet => ?_⟩,
    fun wire => ⟨Packet.exists_ofWire_iff, fun packet => ?_⟩, Framing.agrees,
    fun _ => Framing.receive_arrived, fun _ => Framing.held_iff_framed⟩
  · rw [Packet.ofPayload_eq_ok_iff, and_iff_left packet.ofWire_wire]
  · rw [Packet.ofWire_eq_ok_iff, and_iff_left packet.ofPayload_payload]

end VirtualLink
