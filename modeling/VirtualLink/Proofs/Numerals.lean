import VirtualLink.Proofs.Spelling

namespace VirtualLink

/-- A zero stands in front of other digits. -/
def Padded (digits : List Char) : Prop :=
  1 < digits.length ∧ digits.head? = some '0'

/-- The number in decimal, perhaps behind zeros that it does not need. -/
def Decimal (digits : List Char) (n : Nat) : Prop :=
  ∃ zeros, digits = List.replicate zeros '0' ++ Nat.toDigits 10 n

variable {digits : List Char} {n : Nat}

theorem head?_toDigits_of_pos (positive : 0 < n) : (Nat.toDigits 10 n).head? ≠ some '0' := by
  induction n using Nat.strongRecOn with
  | ind n ih =>
    by_cases small : n < 10
    · have nonzero : ∀ digit < 10, 0 < digit → Nat.digitChar digit ≠ '0' := by decide
      rw [Nat.toDigits_of_lt_base small]
      intro zero
      exact nonzero n small positive (Option.some.inj zero)
    · have front := ih (n / 10) (by omega) (by omega)
      obtain ⟨c, rest, known⟩ := List.exists_cons_of_ne_nil (Nat.toDigits_ne_nil (n := n / 10) (b := 10))
      rw [known] at front
      rw [Nat.toDigits_of_base_le (by decide) (by omega), known]
      exact front

/-- A number is written without zeros in front. -/
theorem not_padded_toDigits (n : Nat) : ¬ Padded (Nat.toDigits 10 n) := by
  rintro ⟨several, zero⟩
  rcases Nat.eq_zero_or_pos n with rfl | positive
  · simp at several
  · exact head?_toDigits_of_pos positive zero

theorem isDigit_of_mem_toDigits {c : Char} (member : c ∈ Nat.toDigits 10 n) : c.isDigit = true :=
  Nat.isDigit_of_mem_toDigits (by decide) (by decide) member

/-- Digits denote the number that is read from them. -/
theorem decimal_iff :
    Decimal digits n ↔ digits ≠ [] ∧ (∀ c ∈ digits, c.isDigit = true) ∧ Nat.ofDigitChars 10 digits 0 = n := by
  constructor
  · rintro ⟨zeros, rfl⟩
    refine ⟨?_, ?_, ?_⟩
    · simp [Nat.toDigits_ne_nil]
    · intro c member
      rcases List.mem_append.mp member with zero | digit
      · rw [(List.mem_replicate.mp zero).2]
        decide
      · exact isDigit_of_mem_toDigits digit
    · rw [Nat.ofDigitChars_append, Nat.ofDigitChars_replicate_zero, Nat.mul_zero, Nat.ofDigitChars_ten_toDigits]
  · rintro ⟨given, all, value⟩
    induction digits with
    | nil => exact absurd rfl given
    | cons c rest ih =>
      -- a zero in front adds nothing to the number, and digits without one are what the number is written in
      by_cases padded : Padded (c :: rest)
      · obtain ⟨several, zero⟩ := padded
        obtain rfl : c = '0' := Option.some.inj zero
        have more : rest ≠ [] := by
          rintro rfl
          simp at several
        rw [Nat.ofDigitChars_cons] at value
        obtain ⟨zeros, same⟩ := ih more (fun d member => all d (List.mem_cons_of_mem _ member)) value
        exact ⟨zeros + 1, by rw [same, List.replicate_succ, List.cons_append]⟩
      · have written := toDigits_ofDigitChars given all padded
        rw [value] at written
        exact ⟨0, by rw [written, List.replicate_zero, List.nil_append]⟩

theorem Decimal.unique {m : Nat} (decimal : Decimal digits n) (again : Decimal digits m) : n = m := by
  obtain ⟨-, -, value⟩ := decimal_iff.mp decimal
  obtain ⟨-, -, value'⟩ := decimal_iff.mp again
  exact value.symm.trans value'

/-- Digits are those that their number is written in, unless there are zeros in front. -/
theorem Decimal.written_iff (decimal : Decimal digits n) : Nat.toDigits 10 n = digits ↔ ¬ Padded digits := by
  constructor
  · rintro rfl
    exact not_padded_toDigits n
  · intro plain
    obtain ⟨given, all, value⟩ := decimal_iff.mp decimal
    have written := toDigits_ofDigitChars given all plain
    rwa [value] at written

end VirtualLink
