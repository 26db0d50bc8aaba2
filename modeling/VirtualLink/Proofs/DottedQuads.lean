import Mathlib.Logic.ExistsUnique
import VirtualLink.Proofs.Numerals
import VirtualLink.Proofs.Written

namespace VirtualLink

namespace Ipv4

variable {text digits : List Char}

/-- The decimal text of a byte. -/
def IsOctet (digits : List Char) : Prop :=
  ∃ byte : UInt8, digits = Nat.toDigits 10 byte.toNat

theorem isOctet_iff : IsOctet digits ↔ ∃ byte, octet digits = .ok byte := by
  simp only [IsOctet, octet_eq_ok_iff]

/-- The text of no number: empty, with something else than digits, or with a zero in front that it does not need. -/
def Malformed (digits : List Char) : Prop :=
  digits = [] ∨ (∃ c ∈ digits, c.isDigit = false) ∨ Padded digits

theorem malformed_iff :
    Malformed digits ↔ (digits = [] ∨ ¬ digits.all Char.isDigit = true)
      ∨ (digits.length > 1 ∧ digits.head? = some '0') := by
  simp [Malformed, Padded, or_assoc]

theorem octet_of_malformed (malformed : Malformed digits) : octet digits = .error .ipv4Syntax := by
  unfold octet
  rcases malformed_iff.mp malformed with strange | padded
  · exact if_pos strange
  · rw [if_pos padded]
    exact ite_self _

/-- Digits that are not the text of a byte are too large a number. -/
theorem octet_of_formed (formed : ¬ Malformed digits) (bad : ¬ IsOctet digits) :
    octet digits = .error .ipv4OctetRange := by
  rw [malformed_iff, not_or] at formed
  rw [isOctet_iff] at bad
  unfold octet at bad ⊢
  rw [if_neg formed.1, if_neg formed.2] at bad ⊢
  split
  · rfl
  · rename_i small
    rw [if_neg small] at bad
    exact absurd ⟨_, rfl⟩ bad

/-- Four octets with dots between them, whatever is in them. -/
def Quad (text : List Char) (octets : List (List Char)) : Prop :=
  octets.length = 4 ∧ (∀ octet ∈ octets, '.' ∉ octet) ∧ List.intercalate ['.'] octets = text

theorem quad_iff {octets : List (List Char)} : Quad text octets ↔ fields '.' text = octets ∧ octets.length = 4 := by
  rw [fields_eq_iff, Quad]
  constructor
  · rintro ⟨four, free, whole⟩
    refine ⟨⟨?_, free, whole⟩, four⟩
    rintro rfl
    cases four
  · rintro ⟨⟨-, free, whole⟩, four⟩
    exact ⟨four, free, whole⟩

/-- The text has four octets, and of these this is the first that is not the text of a byte. -/
def Decides (text bad : List Char) : Prop :=
  ∃ octets, Quad text octets ∧ FirstBad IsOctet octets bad

/-- Why a text is refused: it does not have three dots, or the first bad octet decides. -/
inductive Misspelled (text : List Char) : Rule → Prop
  | octetCount (dots : text.count '.' ≠ 3) : Misspelled text .ipv4OctetCount
  | malformed {bad : List Char} (decides : Decides text bad) (malformed : Malformed bad) : Misspelled text .ipv4Syntax
  | large {bad : List Char} (decides : Decides text bad) (formed : ¬ Malformed bad) : Misspelled text .ipv4OctetRange

theorem ofChars_of_dots (dots : text.count '.' ≠ 3) : ofChars text = .error .ipv4OctetCount := by
  have count := length_fields '.' text
  unfold ofChars
  split
  · rename_i parted
    rw [parted] at count
    simp only [List.length_cons, List.length_nil] at count
    omega
  · rfl

/-- The address of four octets. -/
def ofOctets : Bytes → Ipv4
  | [a, b, c, d] => ⟨a, b, c, d⟩
  | _ => unspecified

/-- Four octets are read one by one. -/
theorem ofChars_eq_error_of_quad {octets : List (List Char)} {rule : Rule} (quad : Quad text octets) :
    ofChars text = .error rule ↔ ∃ bad, FirstBad IsOctet octets bad ∧ octet bad = .error rule := by
  rw [← Checked.mapM_eq_error_iff fun _ => isOctet_iff]
  obtain ⟨parted, four⟩ := quad_iff.mp quad
  match octets, four with
  | [a, b, c, d], _ =>
    have whole : ofChars text = ofOctets <$> [a, b, c, d].mapM octet := by
      simp [ofChars, parted, ofOctets]
    rw [whole]
    exact Checked.map_eq_error_iff

theorem Decides.ofChars {bad : List Char} {rule : Rule} (decides : Decides text bad)
    (broken : octet bad = .error rule) : ofChars text = .error rule := by
  obtain ⟨octets, quad, first⟩ := decides
  exact (ofChars_eq_error_of_quad quad).mpr ⟨bad, first, broken⟩

theorem Decides.not_octet {bad : List Char} (decides : Decides text bad) : ¬ IsOctet bad := by
  obtain ⟨octets, quad, first⟩ := decides
  exact first.not_good

/-- What is refused is refused for its dots or for its first bad octet. -/
theorem ofChars_eq_error_iff {rule : Rule} : ofChars text = .error rule ↔ Misspelled text rule := by
  constructor
  · intro refused
    by_cases dots : text.count '.' = 3
    · have four : (fields '.' text).length = 4 := by rw [length_fields, dots]
      have quad : Quad text (fields '.' text) := quad_iff.mpr ⟨rfl, four⟩
      obtain ⟨bad, first, broken⟩ := (ofChars_eq_error_of_quad quad).mp refused
      have decides : Decides text bad := ⟨_, quad, first⟩
      by_cases malformed : Malformed bad
      · rw [octet_of_malformed malformed] at broken
        cases broken
        exact .malformed decides malformed
      · rw [octet_of_formed malformed first.not_good] at broken
        cases broken
        exact .large decides malformed
    · rw [ofChars_of_dots dots] at refused
      cases refused
      exact .octetCount dots
  · intro misspelled
    cases misspelled with
    | octetCount dots => exact ofChars_of_dots dots
    | malformed decides malformed => exact decides.ofChars (octet_of_malformed malformed)
    | large decides formed => exact decides.ofChars (octet_of_formed formed decides.not_octet)

theorem toText_injective {addr other : Ipv4} (same : addr.toText = other.toText) : addr = other := by
  have reads := (parse_eq_ok_iff other.toText addr).mpr same
  have again := (parse_eq_ok_iff other.toText other).mpr rfl
  exact Except.ok.inj (reads.symm.trans again)

end Ipv4

variable {field : Field} {text : String}

theorem readQuad_eq_ok_iff {addr : Ipv4} : readQuad field text = .ok addr ↔ addr.toText = text := by
  constructor
  · exact toText_of_readQuad
  · intro same
    rw [readQuad, (Ipv4.parse_eq_ok_iff text addr).mpr same]

theorem readQuad_eq_error_iff {v : Violation} :
    readQuad field text = .error v ↔ v.field = field ∧ v.value = text ∧ Ipv4.Misspelled text.toList v.rule := by
  rw [← Ipv4.ofChars_eq_error_iff, readQuad, Ipv4.parse]
  obtain ⟨meant, value, rule⟩ := v
  cases Ipv4.ofChars text.toList with
  | error broken => simp [eq_comm]
  | ok addr => simp

/-- The reader takes for each address the one text that it is written in, and for any other text says which rule of its
field is broken. -/
structure ReadsQuads (field : Field) (read : String → Checked Ipv4) : Prop where
  accepts : ∀ text addr, read text = .ok addr ↔ text = addr.toText
  spelling : ∀ addr, ∃! text, read text = .ok addr
  refuses : ∀ text v, read text = .error v
    ↔ v.field = field ∧ v.value = text ∧ Ipv4.Misspelled text.toList v.rule

/-- An address and a broadcast address are read from the text of that address and no other, and what is refused is
refused for its dots or for its first bad octet. -/
theorem quads_spelled_once : ReadsQuads .ipv4 readIpv4 ∧ ReadsQuads .broadcast readBroadcast := by
  have reads (field : Field) : ReadsQuads field (readQuad field) := {
    accepts := fun text addr => readQuad_eq_ok_iff.trans eq_comm
    spelling := fun addr => by
      refine ⟨addr.toText, readQuad_eq_ok_iff.mpr rfl, fun text taken => ?_⟩
      exact (readQuad_eq_ok_iff.mp taken).symm
    refuses := fun text v => readQuad_eq_error_iff }
  exact ⟨reads .ipv4, reads .broadcast⟩

end VirtualLink
