import VirtualLink.Proofs.Numerals
import VirtualLink.Proofs.Wire

namespace VirtualLink.CountedList

variable {text : String} {items : List String} {n : Nat}

theorem toList_toString (n : Nat) : (toString n).toList = Nat.toDigits 10 n := by
  rw [Nat.toString_eq_ofList_toDigits, String.toList_ofList]

/-- A count is read if it is a number in decimal that a word of 64 bits can hold. -/
theorem count?_eq_some_iff : count? text = some n ↔ Decimal text.toList n ∧ n < 2 ^ 64 := by
  have size : UInt64.size = 2 ^ 64 := rfl
  rw [decimal_iff, count?, size]
  dsimp only
  split
  · rename_i strange
    refine iff_of_false (Option.some_ne_none n).symm ?_
    rintro ⟨⟨given, all, -⟩, -⟩
    rcases strange with none | other
    · exact given none
    · exact other (List.all_eq_true.mpr all)
  · rename_i usual
    rw [not_or, Decidable.not_not, List.all_eq_true] at usual
    obtain ⟨given, all⟩ := usual
    split
    · rename_i fits
      constructor
      · rintro ⟨⟩
        exact ⟨⟨given, all, rfl⟩, fits⟩
      · rintro ⟨⟨-, -, rfl⟩, -⟩
        rfl
    · rename_i large
      refine iff_of_false (Option.some_ne_none n).symm ?_
      rintro ⟨⟨-, -, rfl⟩, fits⟩
      exact large fits

/-- The text of no count: it is empty, has something else than digits, or is a number that no word of 64 bits holds. -/
def Uncountable (text : String) : Prop :=
  text = "" ∨ (∃ c ∈ text.toList, c.isDigit = false) ∨ ∃ n, Decimal text.toList n ∧ 2 ^ 64 ≤ n

theorem count?_eq_none_iff : count? text = none ↔ Uncountable text := by
  constructor
  · intro unread
    by_cases given : text = ""
    · exact .inl given
    by_cases strange : ∃ c ∈ text.toList, c.isDigit = false
    · exact .inr (.inl strange)
    simp only [not_exists, not_and, Bool.not_eq_false] at strange
    have decimal : Decimal text.toList (Nat.ofDigitChars 10 text.toList 0) :=
      decimal_iff.mpr ⟨by simpa using given, strange, rfl⟩
    refine .inr (.inr ⟨_, decimal, Nat.not_lt.mp fun fits => ?_⟩)
    rw [count?_eq_some_iff.mpr ⟨decimal, fits⟩] at unread
    cases unread
  · intro uncountable
    cases known : count? text with
    | none => rfl
    | some n =>
      obtain ⟨decimal, fits⟩ := count?_eq_some_iff.mp known
      obtain ⟨given, all, -⟩ := decimal_iff.mp decimal
      rcases uncountable with rfl | ⟨c, member, other⟩ | ⟨m, again, large⟩
      · exact absurd rfl given
      · rw [all c member] at other
        cases other
      · have same := decimal.unique again
        omega

/-- Why a wire is refused, and what the error shows. -/
inductive Refused : List String → Error → Prop
  | missing : Refused [] (.badCount "")
  | uncountable {head : String} {items : List String} (uncountable : Uncountable head) :
      Refused (head :: items) (.badCount head)
  | mismatch {head : String} {items : List String} {n : Nat} (declared : Decimal head.toList n) (fits : n < 2 ^ 64)
      (other : n ≠ items.length) : Refused (head :: items) (.countMismatch n items.length)

theorem decode_of_uncountable {head : String} (uncountable : Uncountable head) (items : List String) :
    decode (head :: items) = .error (.badCount head) := by
  simp only [decode, count?_eq_none_iff.mpr uncountable]

theorem decode_of_decimal {head : String} (declared : Decimal head.toList n) (fits : n < 2 ^ 64) (items : List String) :
    decode (head :: items) = if n = items.length then .ok items else .error (.countMismatch n items.length) := by
  simp only [decode, count?_eq_some_iff.mpr ⟨declared, fits⟩]

/-- A text is a number that a word holds, or no count. -/
theorem decimal_or_uncountable (text : String) : (∃ n, Decimal text.toList n ∧ n < 2 ^ 64) ∨ Uncountable text := by
  cases known : count? text with
  | none => exact .inr (count?_eq_none_iff.mp known)
  | some n => exact .inl ⟨n, count?_eq_some_iff.mp known⟩

theorem decode_eq_ok_iff {wire : List String} :
    decode wire = .ok items
      ↔ ∃ head, wire = head :: items ∧ Decimal head.toList items.length ∧ items.length < 2 ^ 64 := by
  constructor
  · intro decoded
    cases wire with
    | nil => cases decoded
    | cons head taken =>
      rcases decimal_or_uncountable head with ⟨n, declared, fits⟩ | uncountable
      · rw [decode_of_decimal declared fits] at decoded
        split at decoded
        · rename_i agrees
          obtain rfl := Except.ok.inj decoded
          subst agrees
          exact ⟨head, rfl, declared, fits⟩
        · cases decoded
      · rw [decode_of_uncountable uncountable] at decoded
        cases decoded
  · rintro ⟨head, rfl, declared, fits⟩
    rw [decode_of_decimal declared fits, if_pos rfl]

theorem decode_eq_error_iff {wire : List String} {error : Error} : decode wire = .error error ↔ Refused wire error := by
  constructor
  · intro refused
    cases wire with
    | nil =>
      cases refused
      exact .missing
    | cons head items =>
      rcases decimal_or_uncountable head with ⟨n, declared, fits⟩ | uncountable
      · rw [decode_of_decimal declared fits] at refused
        split at refused
        · cases refused
        · rename_i other
          cases refused
          exact .mismatch declared fits other
      · rw [decode_of_uncountable uncountable] at refused
        cases refused
        exact .uncountable uncountable
  · intro refused
    cases refused with
    | missing => rfl
    | uncountable uncountable => exact decode_of_uncountable uncountable _
    | mismatch declared fits other => rw [decode_of_decimal declared fits, if_neg other]

/-- What was decoded is encoded as the wire that it came from, unless the count has zeros in front. -/
theorem encode_eq_iff {head : String} (decimal : Decimal head.toList items.length) :
    encode items = head :: items ↔ ¬ Padded head.toList := by
  rw [← decimal.written_iff, encode, List.cons.injEq, and_iff_left rfl, ← String.toList_inj, toList_toString]

/-- A list is decoded from its own encoding, as long as its number fits into a word, which it does in any memory. A
wire is decoded if and only if its head is the number of the items behind it in decimal, and it is the encoding of
these items if and only if that number has no zeros in front. Any other wire is refused for its count, or because the
count does not agree with the items. -/
theorem decode_iff_counted :
    (∀ items, decode (encode items) = .ok items ↔ items.length < 2 ^ 64)
      ∧ (∀ wire items, decode wire = .ok items
          ↔ ∃ head, wire = head :: items ∧ Decimal head.toList items.length ∧ items.length < 2 ^ 64)
      ∧ (∀ head taken items, decode (head :: taken) = .ok items →
          (encode items = head :: taken ↔ ¬ Padded head.toList))
      ∧ ∀ wire error, decode wire = .error error ↔ Refused wire error := by
  refine ⟨fun items => ?_, fun wire items => decode_eq_ok_iff, fun head taken items decoded => ?_,
    fun wire error => decode_eq_error_iff⟩
  · have size : UInt64.size = 2 ^ 64 := rfl
    rw [decode_encode, size]
    by_cases fits : items.length < 2 ^ 64
    · rw [if_pos fits]
      exact iff_of_true rfl fits
    · rw [if_neg fits]
      exact iff_of_false nofun fits
  · obtain ⟨_, ⟨⟩, decimal, -⟩ := decode_eq_ok_iff.mp decoded
    exact encode_eq_iff decimal

/-- A count with zeros in front is read, and written without them. -/
theorem decode_iff_counted_padded :
    decode ["002", "fe80::1", "::"] = .ok ["fe80::1", "::"]
      ∧ encode ["fe80::1", "::"] ≠ ["002", "fe80::1", "::"] := by
  obtain ⟨-, accepts, again, -⟩ := decode_iff_counted
  have decoded : decode ["002", "fe80::1", "::"] = .ok ["fe80::1", "::"] :=
    (accepts _ _).mpr ⟨"002", rfl, ⟨2, by decide⟩, by decide⟩
  have padded : Padded "002".toList := ⟨by decide, by decide⟩
  exact ⟨decoded, fun same => (again "002" _ _ decoded).mp same padded⟩

end VirtualLink.CountedList
