import Mathlib.Data.Nat.Bitwise
import Mathlib.Logic.Function.Basic
import VirtualLink.Checksum

namespace VirtualLink.Checksum

theorem and_one_eq_zero_iff {register : UInt32} : register &&& 1 = 0 ↔ register.toNat % 2 = 0 := by
  rw [← UInt32.toNat_inj, UInt32.toNat_and]
  change register.toNat &&& 1 = 0 ↔ _
  rw [Nat.and_one_is_mod]

theorem shiftBit_of_even {register : UInt32} (even : register.toNat % 2 = 0) : shiftBit register = register >>> 1 :=
  if_pos (and_one_eq_zero_iff.mpr even)

theorem shiftBit_of_odd {register : UInt32} (odd : register.toNat % 2 = 1) :
    shiftBit register = (register >>> 1) ^^^ 0xEDB88320 := by
  refine if_neg fun zero => ?_
  have even := and_one_eq_zero_iff.mp zero
  omega

theorem toNat_shiftRight_one (register : UInt32) : (register >>> 1).toNat = register.toNat / 2 := by
  rw [UInt32.toNat_shiftRight]
  exact Nat.shiftRight_eq_div_pow _ 1

/-- The division is linear: two registers differ after a bit as their difference says. -/
theorem shiftBit_xor (a b : UInt32) : shiftBit (a ^^^ b) = shiftBit a ^^^ shiftBit b := by
  have parity : (a ^^^ b).toNat % 2 = (a.toNat + b.toNat) % 2 := by
    rw [UInt32.toNat_xor, Nat.xor_mod_two_eq]
  rcases Nat.mod_two_eq_zero_or_one a.toNat with evenA | oddA <;>
    rcases Nat.mod_two_eq_zero_or_one b.toNat with evenB | oddB
  · rw [shiftBit_of_even (by omega), shiftBit_of_even evenA, shiftBit_of_even evenB, UInt32.shiftRight_xor]
  · rw [shiftBit_of_odd (by omega), shiftBit_of_even evenA, shiftBit_of_odd oddB, UInt32.shiftRight_xor]
    ac_rfl
  · rw [shiftBit_of_odd (by omega), shiftBit_of_odd oddA, shiftBit_of_even evenB, UInt32.shiftRight_xor]
    ac_rfl
  · rw [shiftBit_of_even (by omega), shiftBit_of_odd oddA, shiftBit_of_odd oddB, UInt32.shiftRight_xor]
    generalize (0xEDB88320 : UInt32) = polynomial
    calc a >>> 1 ^^^ b >>> 1
        = a >>> 1 ^^^ b >>> 1 ^^^ (polynomial ^^^ polynomial) := by rw [UInt32.xor_self, UInt32.xor_zero]
      _ = (a >>> 1 ^^^ polynomial) ^^^ (b >>> 1 ^^^ polynomial) := by ac_rfl

/-- Nothing is lost: the polynomial has its highest bit set, which tells whether it was taken. -/
theorem shiftBit_injective : Function.Injective shiftBit := by
  intro a b same
  -- By linearity it is enough that only zero comes to zero.
  have zero : shiftBit (a ^^^ b) = 0 := by rw [shiftBit_xor, same, UInt32.xor_self]
  refine UInt32.xor_eq_zero_iff.mp ?_
  generalize a ^^^ b = difference at zero ⊢
  have half := toNat_shiftRight_one difference
  rcases Nat.mod_two_eq_zero_or_one difference.toNat with even | odd
  · have none : (difference >>> 1).toNat = 0 := by rw [← shiftBit_of_even even, zero]; rfl
    exact UInt32.toNat_inj.mp (show difference.toNat = 0 by omega)
  · rw [shiftBit_of_odd odd, UInt32.xor_eq_zero_iff] at zero
    have high : (difference >>> 1).toNat = 0xEDB88320 := congrArg UInt32.toNat zero
    have bound := difference.toNat_lt
    omega

/-- So many bits of the division. -/
def shiftBits (n : Nat) (register : UInt32) : UInt32 :=
  Nat.repeat shiftBit n register

theorem shiftBits_add (m n : Nat) (register : UInt32) :
    shiftBits (m + n) register = shiftBits n (shiftBits m register) := by
  induction n with
  | zero => rfl
  | succ n ih => exact congrArg shiftBit ih

theorem shiftBits_xor (n : Nat) (a b : UInt32) : shiftBits n (a ^^^ b) = shiftBits n a ^^^ shiftBits n b := by
  induction n with
  | zero => rfl
  | succ n ih => exact (congrArg shiftBit ih).trans (shiftBit_xor _ _)

theorem shiftBits_injective (n : Nat) : Function.Injective (shiftBits n) := by
  induction n with
  | zero => exact fun _ _ same => same
  | succ n ih => exact fun _ _ same => ih (shiftBit_injective same)

/-- Bits that have not come to the low end yet only move down. -/
theorem shiftBits_of_high {high moved : UInt32} {n : Nat} (above : high.toNat = moved.toNat <<< n) :
    shiftBits n high = moved := by
  suffices ∀ v, high.toNat = v <<< n → (shiftBits n high).toNat = v from UInt32.toNat_inj.mp (this _ above)
  clear above
  induction n with
  | zero => exact fun v same => same
  | succ n ih =>
    intro v same
    rw [Nat.shiftLeft_succ_inside] at same
    have twice := ih (2 * v) same
    change (shiftBit (shiftBits n high)).toNat = v
    rw [shiftBit_of_even (by omega), toNat_shiftRight_one]
    omega

theorem getElem_fifteen : ∀ i (bound : i < 32), (15#32)[i] = decide (i < 4) := by
  decide

theorem getElem_topmost : ∀ i (bound : i < 32), (0xF0000000#32)[i] = decide (28 ≤ i) := by
  decide

/-- A register is its low half byte below its upper bits. -/
theorem split_low (register : UInt32) : (register &&& (15 : UInt32)) ^^^ (register >>> 4 <<< 4) = register := by
  refine UInt32.toBitVec_inj.mp (BitVec.eq_of_getElem_eq fun i bound => ?_)
  by_cases below : i < 4
  · simp [getElem_fifteen, below]
  · have back : 4 + (i - 4) = i := by omega
    simp [getElem_fifteen, below, back, BitVec.getLsbD_eq_getElem bound]

theorem toNat_shifted_back (register : UInt32) : (register >>> 4 <<< 4).toNat = (register >>> 4).toNat <<< 4 := by
  rw [UInt32.toNat_shiftLeft, UInt32.toNat_shiftRight]
  have bound := register.toNat_lt
  change register.toNat >>> 4 <<< 4 % 2 ^ 32 = register.toNat >>> 4 <<< 4
  rw [Nat.shiftLeft_eq, Nat.shiftRight_eq_div_pow]
  omega

/-- Four bits at a time: the upper bits move down, and the low half byte alone tells what comes to them. -/
theorem shiftBits_four (register : UInt32) :
    shiftBits 4 register = (register >>> 4) ^^^ shiftBits 4 (register &&& 15) := by
  conv_lhs => rw [← split_low register]
  rw [shiftBits_xor, shiftBits_of_high (toNat_shifted_back register), UInt32.xor_comm]

/-- The table holds what a half byte contributes, and the ones that move into a register in the place of zeros. -/
theorem nibbleTable_get : ∀ i : Fin 16,
    nibbleTable.get i = shiftBits 4 (UInt32.ofNat i ^^^ 15) ^^^ 0xF0000000 := by
  decide

theorem ofNat_mod_sixteen (byte : UInt8) : UInt32.ofNat (byte.toNat % 16) = byte.toUInt32 &&& 15 := by
  have small : byte.toNat % 16 < UInt32.size := Nat.lt_trans (Nat.mod_lt _ (by decide)) (by decide)
  refine UInt32.toNat_inj.mp ?_
  rw [UInt32.toNat_ofNat_of_lt' small, UInt32.toNat_and]
  exact (Nat.and_two_pow_sub_one_eq_mod byte.toNat 4).symm

/-- Where the table is looked up, against the low half byte of the complement that the division is done with. -/
theorem low_complement (register : UInt32) (bits : UInt8) :
    ((register.toUInt8 ^^^ bits).toUInt32 &&& (15 : UInt32)) ^^^ 15
      = (~~~register ^^^ (bits.toUInt32 &&& (15 : UInt32))) &&& (15 : UInt32) := by
  refine UInt32.toBitVec_inj.mp (BitVec.eq_of_getElem_eq fun i bound => ?_)
  by_cases below : i < 4
  · have inByte : i < 8 := by omega
    simp [getElem_fifteen, below, inByte, BitVec.getLsbD_eq_getElem bound, -UInt32.toUInt32_toUInt8]
  · simp [getElem_fifteen, below]

theorem not_not_shiftRight (register : UInt32) :
    ~~~(~~~register >>> 4) = (register >>> 4) ^^^ (0xF0000000 : UInt32) := by
  refine UInt32.toBitVec_inj.mp (BitVec.eq_of_getElem_eq fun i bound => ?_)
  by_cases top : 28 ≤ i
  · have beyond : 32 ≤ 4 + i := by omega
    simp [getElem_topmost, top, beyond]
  · simp [getElem_topmost, top, show 4 + i < 32 by omega]

/-- Four bits by the table. Its registers are the complements of those that the polynomial division has. -/
theorem shiftNibble_eq (register : UInt32) (bits : UInt8) :
    shiftNibble register bits = ~~~shiftBits 4 (~~~register ^^^ (bits.toUInt32 &&& (15 : UInt32))) := by
  have halfByte : ∀ n < 16, UInt32.ofNat n >>> 4 = 0 := by decide
  have upper : (bits.toUInt32 &&& (15 : UInt32)) >>> 4 = 0 := by
    rw [← ofNat_mod_sixteen]
    exact halfByte _ (Nat.mod_lt _ (by decide))
  rw [shiftNibble, nibbleTable_get, ofNat_mod_sixteen, low_complement, shiftBits_four (~~~register ^^^ _),
    UInt32.shiftRight_xor, upper, UInt32.xor_zero, ← UInt32.not_xor, not_not_shiftRight]
  ac_rfl

theorem upper_half (byte : UInt8) : (byte >>> 4).toUInt32 &&& (15 : UInt32) = byte.toUInt32 >>> 4 := by
  have small : byte.toNat >>> 4 < 2 ^ 4 := by
    have bound := byte.toNat_lt
    rw [Nat.shiftRight_eq_div_pow]
    omega
  refine UInt32.toNat_inj.mp ?_
  rw [UInt32.toNat_and, UInt32.toNat_shiftRight, UInt8.toNat_toUInt32, UInt8.toNat_toUInt32, UInt8.toNat_shiftRight]
  exact (Nat.and_two_pow_sub_one_eq_mod _ 4).trans (Nat.mod_eq_of_lt small)

/-- A byte by the table, low half first, is eight bits of the division. -/
theorem shiftByte_eq (register : UInt32) (byte : UInt8) :
    shiftByte register byte = ~~~shiftBits 8 (~~~register ^^^ byte.toUInt32) := by
  calc shiftByte register byte
      = ~~~shiftBits 4 (~~~~~~shiftBits 4 (~~~register ^^^ (byte.toUInt32 &&& (15 : UInt32)))
          ^^^ ((byte >>> 4).toUInt32 &&& (15 : UInt32))) := by
        rw [shiftByte, shiftNibble_eq, shiftNibble_eq]
    _ = ~~~shiftBits 4 (shiftBits 4 (~~~register ^^^ (byte.toUInt32 &&& (15 : UInt32)))
          ^^^ shiftBits 4 (byte.toUInt32 >>> 4 <<< 4)) := by
        rw [UInt32.not_not, upper_half, shiftBits_of_high (toNat_shifted_back _)]
    _ = ~~~shiftBits 8 (~~~register ^^^ ((byte.toUInt32 &&& (15 : UInt32)) ^^^ (byte.toUInt32 >>> 4 <<< 4))) := by
        rw [← shiftBits_xor, shiftBits_add 4 4, UInt32.xor_assoc]
    _ = ~~~shiftBits 8 (~~~register ^^^ byte.toUInt32) := by
        rw [split_low]

/-- The registers of the division after the bytes. -/
def divide (register : UInt32) (bytes : Bytes) : UInt32 :=
  bytes.foldl (fun register byte => shiftBits 8 (register ^^^ byte.toUInt32)) register

theorem foldl_shiftByte (bytes : Bytes) (register : UInt32) :
    bytes.foldl shiftByte register = ~~~divide (~~~register) bytes := by
  induction bytes generalizing register with
  | nil => exact UInt32.not_not.symm
  | cons byte rest ih =>
    rw [List.foldl_cons, ih, shiftByte_eq, UInt32.not_not]
    rfl

/-- Four bits at a time by the table come to the same as bit by bit with the polynomial. -/
theorem crc32_eq_crc32Bitwise (bytes : Bytes) : crc32 bytes = crc32Bitwise bytes :=
  foldl_shiftByte bytes 0

/-- The check value of the standard, over the digits from 1 to 9. -/
example : crc32 [0x31, 0x32, 0x33, 0x34, 0x35, 0x36, 0x37, 0x38, 0x39] = 0xCBF43926 := by
  decide

end VirtualLink.Checksum
