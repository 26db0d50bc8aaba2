import VirtualLink.Proofs.Checksum
import VirtualLink.Proofs.Returning

namespace VirtualLink

namespace Checksum

/-- Bytes as a number, the first one lowest. -/
def number : Bytes → Nat
  | [] => 0
  | byte :: rest => byte.toNat + 256 * number rest

theorem number_lt (bytes : Bytes) : number bytes < 256 ^ bytes.length := by
  induction bytes with
  | nil => exact Nat.zero_lt_one
  | cons byte rest ih =>
    have bound := byte.toNat_lt
    rw [number, List.length_cons, pow_succ]
    omega

/-- A word holds up to four bytes. -/
theorem toNat_ofNat_number {bytes : Bytes} (short : bytes.length ≤ 4) :
    (UInt32.ofNat (number bytes)).toNat = number bytes := by
  have reach : 256 ^ bytes.length ≤ 256 ^ 4 := Nat.pow_le_pow_right (by decide) short
  exact UInt32.toNat_ofNat_of_lt' (Nat.lt_of_lt_of_le (number_lt bytes) reach)

theorem eq_of_number_eq {first second : Bytes} (length : first.length = second.length)
    (same : number first = number second) : first = second := by
  induction first generalizing second with
  | nil => exact (List.length_eq_zero_iff.mp length.symm).symm
  | cons byte rest ih =>
    cases second with
    | nil => cases length
    | cons other more =>
      have bound := byte.toNat_lt
      have otherBound := other.toNat_lt
      simp only [number] at same
      have later : rest = more := ih (Nat.succ.inj length) (by omega)
      have here : byte = other := UInt8.toNat_inj.mp (by omega)
      rw [here, later]

theorem xor_shiftLeft_eight {low : Nat} (small : low < 256) (high : Nat) : low ^^^ (high <<< 8) = low + 256 * high := by
  have sum : low + 256 * high = 2 ^ 8 * high + low := by omega
  refine Nat.eq_of_testBit_eq fun i => ?_
  rw [sum, Nat.testBit_two_pow_mul_add _ small, Nat.testBit_xor, Nat.testBit_shiftLeft]
  split
  · rename_i below
    rw [decide_eq_false (Nat.not_le.mpr below), Bool.false_and, Bool.xor_false]
  · rename_i above
    have reach : 2 ^ 8 ≤ 2 ^ i := Nat.pow_le_pow_right (by decide) (Nat.not_lt.mp above)
    rw [Nat.testBit_lt_two_pow (Nat.lt_of_lt_of_le small reach), decide_eq_true (Nat.not_lt.mp above), Bool.true_and,
      Bool.false_xor]

theorem divide_append (register : UInt32) (first second : Bytes) :
    divide register (first ++ second) = divide (divide register first) second :=
  List.foldl_append

/-- Bytes that follow keep registers apart. -/
theorem divide_injective (bytes : Bytes) : Function.Injective (divide · bytes) := by
  induction bytes with
  | nil => exact fun _ _ same => same
  | cons byte rest ih =>
    intro first second same
    exact (UInt32.xor_left_inj _).mp (shiftBits_injective 8 (ih same))

/-- The first byte stands below the rest. -/
theorem ofNat_number_cons (byte : UInt8) {rest : Bytes} (short : rest.length < 4) :
    ∃ high, UInt32.ofNat (number (byte :: rest)) = byte.toUInt32 ^^^ high
      ∧ high.toNat = (UInt32.ofNat (number rest)).toNat <<< 8 := by
  have whole : (UInt32.ofNat (number (byte :: rest))).toNat = number (byte :: rest) := toNat_ofNat_number short
  have fits := (UInt32.ofNat (number (byte :: rest))).toNat_lt
  have high : (UInt32.ofNat (256 * number rest)).toNat = number rest <<< 8 := by
    rw [whole, number] at fits
    rw [UInt32.toNat_ofNat_of_lt' (Nat.lt_of_le_of_lt (Nat.le_add_left _ _) fits), Nat.shiftLeft_eq, Nat.mul_comm]
  refine ⟨UInt32.ofNat (256 * number rest), UInt32.toNat_inj.mp ?_, ?_⟩
  · rw [whole, UInt32.toNat_xor, high, UInt8.toNat_toUInt32, xor_shiftLeft_eight byte.toNat_lt, number]
  · rw [high, toNat_ofNat_number (Nat.le_of_lt short)]

/-- Up to four bytes that enter one by one come to the same as if they had been in the register from the start: those
that are still to come only move down. -/
theorem divide_eq_shiftBits {bytes : Bytes} (short : bytes.length ≤ 4) (register : UInt32) :
    divide register bytes = shiftBits (8 * bytes.length) (register ^^^ UInt32.ofNat (number bytes)) := by
  induction bytes generalizing register with
  | nil => exact UInt32.xor_zero.symm
  | cons byte rest ih =>
    obtain ⟨high, parts, moved⟩ := ofNat_number_cons byte short
    calc divide register (byte :: rest)
        = divide (shiftBits 8 (register ^^^ byte.toUInt32)) rest := rfl
      _ = shiftBits (8 * rest.length) (shiftBits 8 (register ^^^ byte.toUInt32) ^^^ UInt32.ofNat (number rest)) :=
          ih (Nat.le_of_lt short) _
      _ = shiftBits (8 * rest.length) (shiftBits 8 (register ^^^ byte.toUInt32) ^^^ shiftBits 8 high) := by
          rw [shiftBits_of_high moved]
      _ = shiftBits (8 * (rest.length + 1)) (register ^^^ UInt32.ofNat (number (byte :: rest))) := by
          rw [← shiftBits_xor, ← shiftBits_add, UInt32.xor_assoc, ← parts, Nat.mul_add, Nat.add_comm]

/-- No two strings of up to four bytes do the same to a register. -/
theorem eq_of_divide_eq {first second : Bytes} (length : first.length = second.length) (short : first.length ≤ 4)
    {register : UInt32} (same : divide register first = divide register second) : first = second := by
  rw [divide_eq_shiftBits short, divide_eq_shiftBits (length ▸ short), ← length] at same
  have words := (UInt32.xor_right_inj register).mp (shiftBits_injective _ same)
  have numbers := congrArg UInt32.toNat words
  rw [toNat_ofNat_number short, toNat_ofNat_number (length ▸ short)] at numbers
  exact eq_of_number_eq length numbers

end Checksum

/-- Two byte strings of one length that differ within four consecutive places only. -/
def Neighbours (first second : Bytes) : Prop :=
  first.length = second.length ∧ ∃ start, ∀ i, i < start ∨ start + 4 ≤ i → first[i]? = second[i]?

namespace Neighbours

variable {first second : Bytes}

theorem of_short (length : first.length = second.length) (short : first.length ≤ 4) : Neighbours first second := by
  refine ⟨length, 0, fun i outside => ?_⟩
  have beyond := outside.resolve_left (Nat.not_lt_zero i)
  rw [List.getElem?_eq_none (by omega), List.getElem?_eq_none (by omega)]

theorem append (near : Neighbours first second) (back : Bytes) : Neighbours (first ++ back) (second ++ back) := by
  obtain ⟨length, start, agree⟩ := near
  refine ⟨by simp only [List.length_append, length], start, fun i outside => ?_⟩
  rw [List.getElem?_append, List.getElem?_append, length, agree i outside]

theorem prepend (near : Neighbours first second) (front : Bytes) : Neighbours (front ++ first) (front ++ second) := by
  obtain ⟨length, start, agree⟩ := near
  refine ⟨by simp only [List.length_append, length], front.length + start, fun i outside => ?_⟩
  rw [List.getElem?_append, List.getElem?_append]
  split
  · rfl
  · exact agree _ (by omega)

/-- What two strings have in common is around up to four bytes of each. -/
theorem split (near : Neighbours first second) :
    ∃ front middle other back, first = front ++ (middle ++ back) ∧ second = front ++ (other ++ back)
      ∧ middle.length = other.length ∧ middle.length ≤ 4 := by
  obtain ⟨length, start, agree⟩ := near
  have front : first.take start = second.take start := by
    refine List.ext_getElem? fun i => ?_
    rw [List.getElem?_take, List.getElem?_take]
    split
    · rename_i before
      exact agree i (.inl before)
    · rfl
  have back : (first.drop start).drop 4 = (second.drop start).drop 4 := by
    refine List.ext_getElem? fun i => ?_
    rw [List.drop_drop, List.drop_drop, List.getElem?_drop, List.getElem?_drop]
    exact agree _ (.inr (Nat.le_add_right _ _))
  refine ⟨first.take start, (first.drop start).take 4, (second.drop start).take 4, (first.drop start).drop 4,
    ?_, ?_, ?_, List.length_take_le _ _⟩
  · rw [List.take_append_drop, List.take_append_drop]
  · rw [front, back, List.take_append_drop, List.take_append_drop]
  · simp only [List.length_take, List.length_drop, length]

theorem crc32_ne (near : Neighbours first second) (apart : first ≠ second) :
    Checksum.crc32 first ≠ Checksum.crc32 second := by
  intro same
  obtain ⟨front, middle, other, back, rfl, rfl, length, short⟩ := near.split
  rw [Checksum.crc32, Checksum.crc32, Checksum.foldl_shiftByte, Checksum.foldl_shiftByte] at same
  simp only [UInt32.not_inj, Checksum.divide_append] at same
  have inside := Checksum.eq_of_divide_eq length short (Checksum.divide_injective back same)
  exact apart (by rw [inside])

end Neighbours

theorem utf8_injective : Function.Injective utf8 := by
  intro name other same
  rw [← String.toByteArray_inj, ← String.utf8Encode_toList, ← String.utf8Encode_toList]
  exact congrArg List.toByteArray same

theorem wordBytes_injective : Function.Injective wordBytes := by
  intro word other same
  have octets := congrArg (List.map UInt8.toNat) same
  simp only [wordBytes, List.map_cons, List.map_nil, List.cons.injEq, and_true, UInt32.toNat_toUInt8,
    UInt32.toNat_shiftRight, UInt32.reduceToNat, Nat.reduceMod, Nat.shiftRight_eq_div_pow] at octets
  refine UInt32.toNat_inj.mp ?_
  have bound := word.toNat_lt
  have otherBound := other.toNat_lt
  omega

theorem checkMac_eq_ok_iff {mac : Mac} : checkMac mac = .ok () ↔ mac.isZero = false ∧ mac.isUnicast = true := by
  unfold checkMac Mac.isUnicast
  cases mac.isZero <;> cases mac.isMulticast <;> simp

namespace Mac

/-- The last four octets are the checksum. -/
theorem crc32_eq_of_generate_eq {id id' : UInt32} {name name' : String} (same : generate id name = generate id' name') :
    Checksum.crc32 (utf8 name ++ wordBytes id) = Checksum.crc32 (utf8 name' ++ wordBytes id') :=
  wordBytes_injective (congrArg (fun mac => mac.toBytes.drop 2) same)

theorem generate_ne_of_id {id id' : UInt32} (apart : id ≠ id') (name : String) :
    generate id name ≠ generate id' name := by
  have near : Neighbours (wordBytes id) (wordBytes id') :=
    .of_short rfl (Nat.le_of_eq (length_wordBytes id))
  refine mt crc32_eq_of_generate_eq ((near.prepend (utf8 name)).crc32_ne fun same => apart ?_)
  exact wordBytes_injective (List.append_cancel_left same)

theorem generate_ne_of_name {name name' : String} (near : Neighbours (utf8 name) (utf8 name'))
    (apart : name ≠ name') (id : UInt32) : generate id name ≠ generate id name' := by
  refine mt crc32_eq_of_generate_eq ((near.append (wordBytes id)).crc32_ne fun same => apart ?_)
  exact utf8_injective (List.append_cancel_right same)

theorem isLocal_generate (id : UInt32) (name : String) : (generate id name).isLocal = true := by
  have first : (generate id name).octets[0] = 2 := rfl
  rw [isLocal, first]
  decide

/-- Strings that differ within four bytes have checksums that differ. So do addresses that are generated for two ids,
or for two names that differ within four bytes, and each of them may be given to a link. -/
theorem generated_apart :
    (∀ first second, Neighbours first second → first ≠ second → Checksum.crc32 first ≠ Checksum.crc32 second)
      ∧ (∀ name id id', id ≠ id' → generate id name ≠ generate id' name)
      ∧ (∀ id name name', Neighbours (utf8 name) (utf8 name') → name ≠ name' → generate id name ≠ generate id name')
      ∧ ∀ id name, (generate id name).isLocal = true ∧ (generate id name).isUnicast = true
        ∧ (generate id name).isZero = false ∧ checkMac (generate id name) = .ok () := by
  refine ⟨fun _ _ near apart => near.crc32_ne apart, fun name _ _ apart => generate_ne_of_id apart name,
    fun id _ _ near apart => generate_ne_of_name near apart id, fun id name => ?_⟩
  have granted := check_generate id name
  obtain ⟨given, single⟩ := checkMac_eq_ok_iff.mp granted
  exact ⟨isLocal_generate id name, single, given, granted⟩

theorem generated_apart_numbered :
    Checksum.crc32 (utf8 "tap0") ≠ Checksum.crc32 (utf8 "tap1") ∧ generate 1 "tap0" ≠ generate 257 "tap0"
      ∧ generate 1 "tap0" ≠ generate 1 "tap1" := by
  have near : Neighbours (utf8 "tap0") (utf8 "tap1") := .of_short (by decide) (by decide)
  obtain ⟨strings, ids, names, -⟩ := generated_apart
  exact ⟨strings _ _ near (by decide), ids "tap0" 1 257 (by decide), names 1 "tap0" "tap1" near (by decide)⟩

end Mac

end VirtualLink
