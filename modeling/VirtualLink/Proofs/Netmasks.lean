import Mathlib.Data.Set.Card
import VirtualLink.Proofs.DottedQuads
import VirtualLink.Proofs.Fitting

namespace VirtualLink

namespace Ipv4

variable {mask other : Ipv4} {ones more : Nat}

/-- The first octet of an address is the most significant one of its word. -/
theorem toNat_word (addr : Ipv4) :
    addr.word.toNat = 2 ^ 8 * (2 ^ 8 * (2 ^ 8 * addr.a.toNat + addr.b.toNat) + addr.c.toNat) + addr.d.toNat := by
  obtain ⟨a, b, c, d⟩ := addr
  have boundA := a.toNat_lt
  have boundB := b.toNat_lt
  have boundC := c.toNat_lt
  have boundD := d.toNat_lt
  have first : a.toNat <<< 24 % 2 ^ 32 = 2 ^ 24 * a.toNat := by
    rw [Nat.shiftLeft_eq]
    omega
  have second : b.toNat <<< 16 % 2 ^ 32 = 2 ^ 16 * b.toNat := by
    rw [Nat.shiftLeft_eq]
    omega
  have third : c.toNat <<< 8 % 2 ^ 32 = 2 ^ 8 * c.toNat := by
    rw [Nat.shiftLeft_eq]
    omega
  -- no octet reaches into the bits of the one in front of it
  have two : 2 ^ 24 * a.toNat ||| 2 ^ 16 * b.toNat = 2 ^ 16 * (2 ^ 8 * a.toNat + b.toNat) := by
    rw [← Nat.two_pow_add_eq_or_of_lt (by omega : 2 ^ 16 * b.toNat < 2 ^ 24)]
    omega
  have three : 2 ^ 16 * (2 ^ 8 * a.toNat + b.toNat) ||| 2 ^ 8 * c.toNat
      = 2 ^ 8 * (2 ^ 8 * (2 ^ 8 * a.toNat + b.toNat) + c.toNat) := by
    rw [← Nat.two_pow_add_eq_or_of_lt (by omega : 2 ^ 8 * c.toNat < 2 ^ 16)]
    omega
  have whole : (word ⟨a, b, c, d⟩).toNat
      = a.toNat <<< 24 % 2 ^ 32 ||| b.toNat <<< 16 % 2 ^ 32 ||| c.toNat <<< 8 % 2 ^ 32 ||| d.toNat := by
    simp [word, UInt32.toNat_or, UInt32.toNat_shiftLeft]
  rw [whole, first, second, third, two, three, ← Nat.two_pow_add_eq_or_of_lt boundD]

theorem word_injective (same : mask.word = other.word) : mask = other := by
  have words := congrArg UInt32.toNat same
  rw [toNat_word, toNat_word] at words
  obtain ⟨a, b, c, d⟩ := mask
  obtain ⟨a', b', c', d'⟩ := other
  have boundB := b.toNat_lt
  have boundC := c.toNat_lt
  have boundD := d.toNat_lt
  have boundB' := b'.toNat_lt
  have boundC' := c'.toNat_lt
  have boundD' := d'.toNat_lt
  simp only [mk.injEq, ← UInt8.toNat_inj]
  dsimp only at words
  omega

theorem word_ofWord (word : UInt32) : (ofWord word).word = word := by
  have bound := word.toNat_lt
  rw [← UInt32.toNat_inj, toNat_word]
  simp only [ofWord, UInt32.toNat_toUInt8, UInt32.toNat_shiftRight, UInt32.reduceToNat, Nat.reduceMod,
    Nat.shiftRight_eq_div_pow]
  omega

/-- A number of ones in front makes one mask. -/
theorem OnesInFront.mask_unique (front : mask.OnesInFront ones) (same : other.OnesInFront ones) : mask = other := by
  obtain ⟨-, whole⟩ := onesInFront_iff_not_word.mp front
  obtain ⟨-, whole'⟩ := onesInFront_iff_not_word.mp same
  have complements : ~~~mask.word = ~~~other.word := UInt32.toNat_inj.mp (whole.trans whole'.symm)
  exact word_injective (UInt32.not_inj.mp complements)

/-- A mask has one number of ones in front. -/
theorem OnesInFront.ones_unique (front : mask.OnesInFront ones) (again : mask.OnesInFront more) : ones = more := by
  obtain ⟨fits, whole⟩ := onesInFront_iff_not_word.mp front
  obtain ⟨fits', whole'⟩ := onesInFront_iff_not_word.mp again
  have positive := Nat.two_pow_pos (32 - ones)
  have positive' := Nat.two_pow_pos (32 - more)
  have powers : 2 ^ (32 - ones) = 2 ^ (32 - more) := by omega
  have zeros := Nat.pow_right_injective (Nat.le_refl 2) powers
  omega

/-- The mask with so many ones in front. -/
def prefixMask (ones : Nat) : Ipv4 :=
  ofWord (~~~ UInt32.ofNat (2 ^ (32 - ones) - 1))

theorem onesInFront_prefixMask (fits : ones ≤ 32) : (prefixMask ones).OnesInFront ones := by
  have bound : 2 ^ (32 - ones) ≤ 2 ^ 32 := Nat.pow_le_pow_right (by decide) (Nat.sub_le ..)
  have small : 2 ^ (32 - ones) - 1 < UInt32.size := by
    have positive := Nat.two_pow_pos (32 - ones)
    have size : UInt32.size = 2 ^ 32 := rfl
    omega
  rw [onesInFront_iff_not_word, prefixMask, word_ofWord, UInt32.not_not, UInt32.toNat_ofNat_of_lt' small]
  exact ⟨fits, rfl⟩

theorem onesInFront_iff : mask.OnesInFront ones ↔ ones ≤ 32 ∧ mask = prefixMask ones := by
  constructor
  · intro front
    exact ⟨front.1, front.mask_unique (onesInFront_prefixMask front.1)⟩
  · rintro ⟨fits, rfl⟩
    exact onesInFront_prefixMask fits

end Ipv4

open Ipv4

theorem readNetmask_eq_of_quad {text : String} {quad : Ipv4} (reads : readQuad .netmask text = .ok quad) :
    readNetmask text = (checkNetmask quad).map fun _ => quad := by
  rw [readNetmask, reads]
  change (checkNetmask quad >>= fun _ => pure quad) = _
  cases checkNetmask quad <;> rfl

theorem readNetmask_eq_of_misspelled {text : String} {v : Violation} (broken : readQuad .netmask text = .error v) :
    readNetmask text = .error v := by
  rw [readNetmask, broken]
  rfl

theorem checkNetmask_eq_error_iff {mask : Ipv4} {v : Violation} :
    checkNetmask mask = .error v
      ↔ (∀ ones, ¬ mask.OnesInFront ones) ∧ v = ⟨.netmask, mask.toText, .netmaskNotContiguous⟩ := by
  rw [← not_exists, ← isContiguous_iff, checkNetmask]
  by_cases contiguous : mask.isContiguous = true
  · simp [contiguous]
  · simp [contiguous, eq_comm]

theorem readNetmask_eq_ok_iff {text : String} {mask : Ipv4} :
    readNetmask text = .ok mask ↔ ∃ ones, mask.OnesInFront ones ∧ text = mask.toText := by
  rw [exists_and_right, ← checkNetmask_eq_ok_iff]
  constructor
  · intro reads
    exact ⟨checkNetmask_of_readNetmask reads, (toText_of_readNetmask reads).symm⟩
  · rintro ⟨checked, rfl⟩
    rw [readNetmask_eq_of_quad (readQuad_eq_ok_iff.mpr rfl), checked]
    rfl

/-- What keeps a text from being a netmask: it is the text of an address that is no mask, or of no address at all. -/
inductive Unmasked (text : String) : Rule → Prop
  | scattered {quad : Ipv4} (spelled : quad.toText = text) (other : ∀ ones, ¬ quad.OnesInFront ones) :
      Unmasked text .netmaskNotContiguous
  | misspelled {rule : Rule} (misspelled : Misspelled text.toList rule) : Unmasked text rule

theorem readNetmask_eq_error_iff {text : String} {v : Violation} :
    readNetmask text = .error v ↔ v.field = .netmask ∧ v.value = text ∧ Unmasked text v.rule := by
  cases reads : readQuad .netmask text with
  | error broken =>
    rw [readNetmask_eq_of_misspelled reads, ← reads, readQuad_eq_error_iff]
    have noQuad : ∀ quad : Ipv4, quad.toText ≠ text := by
      intro quad spelled
      rw [readQuad_eq_ok_iff.mpr spelled] at reads
      cases reads
    constructor
    · rintro ⟨field, value, misspelled⟩
      exact ⟨field, value, .misspelled misspelled⟩
    · rintro ⟨field, value, unmasked⟩
      refine ⟨field, value, ?_⟩
      generalize v.rule = rule at unmasked
      cases unmasked with
      | scattered spelled => exact absurd spelled (noQuad _)
      | misspelled misspelled => exact misspelled
  | ok quad =>
    have spelled := readQuad_eq_ok_iff.mp reads
    rw [readNetmask_eq_of_quad reads, Checked.map_eq_error_iff, checkNetmask_eq_error_iff, spelled]
    constructor
    · rintro ⟨other, rfl⟩
      exact ⟨rfl, rfl, .scattered spelled other⟩
    · rintro ⟨meant, same, unmasked⟩
      obtain ⟨field, value, rule⟩ := v
      dsimp only at meant same unmasked
      subst meant same
      cases unmasked with
      | scattered again other =>
        obtain rfl := toText_injective (again.trans spelled.symm)
        exact ⟨other, rfl⟩
      | misspelled misspelled =>
        have broken := (readQuad_eq_error_iff (v := ⟨.netmask, value, rule⟩)).mpr ⟨rfl, rfl, misspelled⟩
        rw [reads] at broken
        cases broken

theorem prefixMask_text_injOn : Set.InjOn (fun ones => (prefixMask ones).toText) (Finset.range 33) := by
  intro ones inside more inside' same
  rw [Finset.mem_coe, Finset.mem_range] at inside inside'
  have masks : prefixMask ones = prefixMask more := toText_injective same
  have front : (prefixMask more).OnesInFront more := onesInFront_prefixMask (by omega)
  rw [← masks] at front
  exact (onesInFront_prefixMask (by omega)).ones_unique front

theorem netmask_texts :
    {text | ∃ mask, readNetmask text = .ok mask} = (fun ones => (prefixMask ones).toText) '' (Finset.range 33) := by
  ext text
  simp only [Set.mem_ofPred_eq, readNetmask_eq_ok_iff, onesInFront_iff, Set.mem_image, Finset.mem_coe, Finset.mem_range]
  constructor
  · rintro ⟨_, ones, ⟨fits, rfl⟩, rfl⟩
    exact ⟨ones, by omega, rfl⟩
  · rintro ⟨ones, inside, rfl⟩
    exact ⟨prefixMask ones, ones, ⟨by omega, rfl⟩, rfl⟩

/-- A netmask is read from the texts of the masks with ones in front and zeros behind, of which there are 33. The text
of another address is refused as scattered, and any other text as what it lacks to be the text of an address. -/
theorem netmasks_are_prefixes :
    (∀ text mask, readNetmask text = .ok mask ↔ ∃ ones, mask.OnesInFront ones ∧ text = mask.toText)
      ∧ (∀ text v, readNetmask text = .error v ↔ v.field = .netmask ∧ v.value = text ∧ Unmasked text v.rule)
      ∧ {text | ∃ mask, readNetmask text = .ok mask}.ncard = 33 := by
  refine ⟨fun text mask => readNetmask_eq_ok_iff, fun text v => readNetmask_eq_error_iff, ?_⟩
  rw [netmask_texts, prefixMask_text_injOn.ncard_image, Set.ncard_coe_finset, Finset.card_range]

end VirtualLink
