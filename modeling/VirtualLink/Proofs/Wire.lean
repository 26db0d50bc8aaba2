import VirtualLink.CountedList
import VirtualLink.Proofs.Printing

namespace VirtualLink

theorem readIpv6_toText (addr : Ipv6) : readIpv6 addr.toText = .ok addr := by
  rw [readIpv6, addr.parse?_toText]

namespace CountedList

/-- A number is read from its digits as far as a word of 64 bits can hold it. -/
theorem count?_toString (n : Nat) : count? (toString n) = if n < UInt64.size then some n else none := by
  have digits : (toString n).toList = Nat.toDigits 10 n := by
    rw [Nat.toString_eq_ofList_toDigits, String.toList_ofList]
  have all : (Nat.toDigits 10 n).all Char.isDigit = true :=
    List.all_eq_true.mpr fun _ member => Nat.isDigit_of_mem_toDigits (by decide) (by decide) member
  have value : Nat.ofDigitChars 10 (Nat.toDigits 10 n) 0 = n := Nat.ofDigitChars_toDigits (by decide) (by decide)
  have readable : ¬ (Nat.toDigits 10 n = [] ∨ ¬ (Nat.toDigits 10 n).all Char.isDigit = true) :=
    not_or.mpr ⟨Nat.toDigits_ne_nil, Decidable.not_not.mpr all⟩
  simp only [count?, digits, if_neg readable, value]

/-- What was encoded is decoded, as long as its number fits into a word. -/
theorem decode_encode (items : List String) :
    decode (encode items)
      = if items.length < UInt64.size then .ok items else .error (.badCount (toString items.length)) := by
  by_cases fits : items.length < UInt64.size
  · simp only [decode, encode, count?_toString, if_pos fits, if_true]
  · simp only [decode, encode, count?_toString, if_neg fits]

theorem mapM_readIpv6_toText (addrs : List Ipv6) :
    ((addrs.map Ipv6.toText).mapM fun text => (readIpv6 text).mapError Error.violation) = .ok addrs := by
  induction addrs with
  | nil => rfl
  | cons addr rest ih =>
    rw [List.map_cons, List.mapM_cons, readIpv6_toText, ih]
    rfl

/-- An address is written in its text form, and a list of addresses is decoded as it was encoded, whatever is in it.
Only a number of addresses that takes more than a word of 64 bits, which no memory holds, keeps it from that. -/
theorem decodeIpv6_encodeIpv6 (addrs : List Ipv6) :
    (∀ addr : Ipv6, addr.Written addr.toText.toList)
      ∧ (decodeIpv6 (encodeIpv6 addrs) = .ok addrs ↔ addrs.length < UInt64.size) := by
  refine ⟨fun addr => ?_, ?_⟩
  · rw [Ipv6.toText, String.toList_ofList]
    exact addr.written_chars
  · rw [decodeIpv6, encodeIpv6, decode_encode, List.length_map]
    by_cases fits : addrs.length < UInt64.size
    · rw [if_pos fits]
      exact iff_of_true (mapM_readIpv6_toText addrs) fits
    · rw [if_neg fits]
      refine iff_of_false (fun same => ?_) fits
      cases same

end CountedList

end VirtualLink
