import Mathlib.Data.Nat.Bitwise
import VirtualLink.Address.Ipv4

namespace VirtualLink

/-- Nothing but ones in binary: a number that shares no bit with its successor. -/
theorem succ_and_self_eq_zero_iff {n : Nat} : (n + 1) &&& n = 0 ↔ ∃ ones, n = 2 ^ ones - 1 := by
  constructor
  · induction n using Nat.strongRecOn with
    | ind n ih =>
      intro apart
      have halves : (n + 1) / 2 &&& n / 2 = 0 := by
        rw [← Nat.and_div_two, apart]
      rcases Nat.mod_two_eq_zero_or_one n with even | odd
      · rw [show (n + 1) / 2 = n / 2 by omega, Nat.and_self] at halves
        exact ⟨0, by omega⟩
      · rw [show (n + 1) / 2 = n / 2 + 1 by omega] at halves
        obtain ⟨ones, half⟩ := ih (n / 2) (by omega) halves
        have positive := Nat.two_pow_pos ones
        exact ⟨ones + 1, by omega⟩
  · rintro ⟨ones, rfl⟩
    rw [Nat.sub_add_cancel (Nat.two_pow_pos ones)]
    refine Nat.eq_of_testBit_eq fun i => ?_
    rw [Nat.testBit_and, Nat.testBit_two_pow, Nat.testBit_two_pow_sub_one, Nat.zero_testBit]
    by_cases same : ones = i <;> simp [same]

namespace Ipv4

variable {mask : Ipv4} {ones : Nat}

/-- The bit of the address at this place, counted from the front. -/
def bit (addr : Ipv4) (place : Nat) : Bool :=
  addr.word.toNat.testBit (31 - place)

/-- So many ones in front, and zeros behind them. -/
def OnesInFront (mask : Ipv4) (ones : Nat) : Prop :=
  ones ≤ 32 ∧ ∀ place < 32, mask.bit place = decide (place < ones)

theorem testBit_not_word (mask : Ipv4) (i : Nat) :
    (~~~mask.word).toNat.testBit i = (decide (i < 32) && !mask.word.toNat.testBit i) := by
  have complement : (~~~mask.word).toNat = 2 ^ 32 - (mask.word.toNat + 1) := by
    have size : UInt32.size = 2 ^ 32 := rfl
    rw [UInt32.toNat_not, Nat.sub_sub, Nat.add_comm, size]
  rw [complement, Nat.testBit_two_pow_sub_succ mask.word.toNat_lt]

theorem onesInFront_iff_not_word :
    mask.OnesInFront ones ↔ ones ≤ 32 ∧ (~~~mask.word).toNat = 2 ^ (32 - ones) - 1 := by
  refine and_congr_right fun fits => ⟨fun front => Nat.eq_of_testBit_eq fun i => ?_, fun whole place inside => ?_⟩
  · rw [testBit_not_word, Nat.testBit_two_pow_sub_one]
    by_cases inside : i < 32
    · have here := front (31 - i) (by omega)
      rw [bit, show 31 - (31 - i) = i by omega] at here
      simp only [here, inside, decide_true, Bool.true_and, ← decide_not, decide_eq_decide]
      omega
    · have outside : ¬ i < 32 - ones := by omega
      simp only [inside, outside, decide_false, Bool.false_and]
  · have here := mask.testBit_not_word (31 - place)
    have within : 31 - place < 32 := by omega
    rw [whole, Nat.testBit_two_pow_sub_one, decide_eq_true within, Bool.true_and] at here
    rw [bit, ← Bool.not_not (Nat.testBit ..), ← here, ← decide_not, decide_eq_decide]
    omega

theorem isContiguous_iff_not_word :
    mask.isContiguous = true ↔ ((~~~mask.word).toNat + 1) &&& (~~~mask.word).toNat = 0 := by
  have small : (~~~mask.word).toNat < 2 ^ 32 := (~~~mask.word).toNat_lt
  have shared : ((~~~mask.word).toNat + 1) &&& (~~~mask.word).toNat < 2 ^ 32 :=
    Nat.lt_of_le_of_lt Nat.and_le_right small
  -- the successor that wraps loses a bit that the number does not have
  have wrapped : ((~~~mask.word).toNat + 1) % 2 ^ 32 &&& (~~~mask.word).toNat
      = ((~~~mask.word).toNat + 1) &&& (~~~mask.word).toNat := by
    rw [← Nat.mod_eq_of_lt shared, Nat.and_mod_two_pow, Nat.mod_eq_of_lt small]
  rw [isContiguous, beq_iff_eq, ← UInt32.toNat_inj, UInt32.toNat_and, UInt32.toNat_add]
  exact wrapped ▸ Iff.rfl

/-- The masks that pass are those with ones in front and zeros behind. -/
theorem isContiguous_iff : mask.isContiguous = true ↔ ∃ ones, mask.OnesInFront ones := by
  rw [isContiguous_iff_not_word, succ_and_self_eq_zero_iff]
  simp only [onesInFront_iff_not_word]
  constructor
  · rintro ⟨zeros, whole⟩
    have small := (~~~mask.word).toNat_lt
    have fits : zeros ≤ 32 := by
      have : 2 ^ zeros < 2 ^ 33 := by omega
      exact Nat.lt_succ_iff.mp ((Nat.pow_lt_pow_iff_right (by decide)).mp this)
    exact ⟨32 - zeros, Nat.sub_le .., by rw [whole, Nat.sub_sub_self fits]⟩
  · rintro ⟨ones, -, whole⟩
    exact ⟨32 - ones, whole⟩

end Ipv4

end VirtualLink
