import VirtualLink.Proofs.Reading

namespace VirtualLink

theorem fields_eq_splitOn (separator : Char) (text : List Char) : fields separator text = text.splitOn separator := by
  induction text with
  | nil => rfl
  | cons c rest ih =>
    rw [fields, List.splitOn_cons_eq_if_modifyHead, ih]
    by_cases here : c = separator
    · simp [here]
    · rw [if_neg here, if_neg (by simpa using here)]
      cases known : rest.splitOn separator with
      | nil => exact absurd known (List.splitOn_ne_nil separator rest)
      | cons field more => rfl

theorem fields_append (separator : Char) (front back : List Char) :
    fields separator (front ++ separator :: back) = fields separator front ++ fields separator back := by
  simp only [fields_eq_splitOn, List.splitOn_append_cons_self]

theorem intercalate_fields (separator : Char) (text : List Char) :
    List.intercalate [separator] (fields separator text) = text := by
  rw [fields_eq_splitOn, List.intercalate_splitOn]

theorem fields_intercalate {separator : Char} {groups : List (List Char)} (given : groups ≠ [])
    (free : ∀ group ∈ groups, separator ∉ group) : fields separator (List.intercalate [separator] groups) = groups := by
  rw [fields_eq_splitOn, List.splitOn_intercalate separator free given]

section Fields

variable {separator : Char} {text field : List Char} {groups : List (List Char)}

theorem not_mem_of_mem_fields (member : field ∈ fields separator text) : separator ∉ field := by
  induction text generalizing field with
  | nil =>
    obtain rfl := List.mem_singleton.mp member
    exact List.not_mem_nil
  | cons c rest ih =>
    rw [fields] at member
    split at member
    · rcases List.mem_cons.mp member with rfl | later
      · exact List.not_mem_nil
      · exact ih later
    · rename_i other
      split at member
      · rename_i none
        exact absurd none (fields_ne_nil separator rest)
      · rename_i first more parted
        rw [parted] at ih
        rcases List.mem_cons.mp member with rfl | later
        · rw [List.mem_cons, not_or]
          exact ⟨fun same => other same.symm, ih (List.mem_cons_self ..)⟩
        · exact ih (List.mem_cons_of_mem first later)

/-- The stretches between the separators are those without a separator that make up the text. -/
theorem fields_eq_iff :
    fields separator text = groups
      ↔ groups ≠ [] ∧ (∀ group ∈ groups, separator ∉ group) ∧ List.intercalate [separator] groups = text := by
  constructor
  · rintro rfl
    exact ⟨fields_ne_nil separator text, fun _ => not_mem_of_mem_fields, intercalate_fields separator text⟩
  · rintro ⟨given, free, rfl⟩
    exact fields_intercalate given free

/-- A text with a separator has two fields or more. -/
theorem two_le_length_fields_iff : 2 ≤ (fields separator text).length ↔ separator ∈ text := by
  rw [length_fields, ← List.count_pos_iff]
  omega

theorem fields_eq_of_several (several : 2 ≤ groups.length) (free : ∀ group ∈ groups, separator ∉ group)
    (whole : List.intercalate [separator] groups = text) : separator ∈ text ∧ fields separator text = groups := by
  have given : groups ≠ [] := by
    rintro rfl
    simp at several
  have parted := fields_eq_iff.mpr ⟨given, free, whole⟩
  exact ⟨two_le_length_fields_iff.mp (parted ▸ several), parted⟩

end Fields

theorem map_intercalate (f : Char → Char) (separator : List Char) (groups : List (List Char)) :
    (List.intercalate separator groups).map f
      = List.intercalate (separator.map f) (groups.map (List.map f)) := by
  induction groups with
  | nil => rfl
  | cons group rest ih =>
    cases rest with
    | nil => simp
    | cons next more => simpa using ih

theorem map_fields {f : Char → Char} {separator : Char} (same : ∀ c, f c = separator ↔ c = separator)
    (text : List Char) : (fields separator text).map (List.map f) = fields separator (text.map f) := by
  induction text with
  | nil => rfl
  | cons c rest ih =>
    rw [List.map_cons, fields, fields, ← ih]
    by_cases here : c = separator
    · rw [if_pos here, if_pos ((same c).mpr here)]
      rfl
    · rw [if_neg here, if_neg fun mapped => here ((same c).mp mapped)]
      cases fields separator rest <;> rfl

namespace Hex

theorem value?_lt {c : Char} {n : Nat} (known : value? c = some n) : n < 16 ∧ c.toNat < 128 := by
  have digits : '0'.toNat = 48 ∧ 'a'.toNat = 97 ∧ 'A'.toNat = 65 := ⟨rfl, rfl, rfl⟩
  unfold value? at known
  simp only [Char.isDigit, Char.le_def, UInt32.le_iff_toNat_le, Bool.and_eq_true, decide_eq_true_eq] at known
  split at known
  · rename_i bounds
    change 48 ≤ c.toNat ∧ c.toNat ≤ 57 at bounds
    have value := Option.some.inj known
    omega
  · split at known
    · rename_i bounds
      change 97 ≤ c.toNat ∧ c.toNat ≤ 102 at bounds
      have value := Option.some.inj known
      omega
    · split at known
      · rename_i bounds
        change 65 ≤ c.toNat ∧ c.toNat ≤ 70 at bounds
        have value := Option.some.inj known
        omega
      · cases known

/-- In either case a letter stands for the same digit as in lower case. -/
theorem value?_eq_some_iff {c : Char} {n : Nat} : value? c = some n ↔ n < 16 ∧ c.toLower = Nat.digitChar n := by
  have ascii : ∀ k < 128, ∀ n < 16, value? (Char.ofNat k) = some n ↔ (Char.ofNat k).toLower = Nat.digitChar n := by
    decide +kernel
  have low : ∀ n < 16, (Nat.digitChar n).toNat < 128 := by decide
  constructor
  · intro known
    obtain ⟨small, narrow⟩ := value?_lt known
    rw [← Char.ofNat_toNat c] at known ⊢
    exact ⟨small, (ascii _ narrow n small).mp known⟩
  · rintro ⟨small, lower⟩
    have narrow : c.toNat < 128 := by
      unfold Char.toLower at lower
      split at lower
      · rename_i bounds
        have upper : c.toNat ≤ 90 := UInt32.le_iff_toNat_le.mp bounds.2
        omega
      · exact lower ▸ low n small
    rw [← Char.ofNat_toNat c] at lower ⊢
    exact (ascii _ narrow n small).mpr lower

theorem utf8Size_of_value? {c : Char} {n : Nat} (known : value? c = some n) : c.utf8Size = 1 :=
  Char.utf8Size_eq_one_iff.mpr (UInt32.le_iff_toNat_le.mpr (Nat.le_of_lt_succ (value?_lt known).2))

theorem number?_pair_eq_some_iff {c d : Char} {n : Nat} :
    number? [c, d] = some n ↔ ∃ high low, value? c = some high ∧ value? d = some low ∧ n = 16 * high + low := by
  simp only [number?, List.foldlM_cons, List.foldlM_nil, Option.bind_eq_bind, Option.pure_def]
  cases value? c <;> cases value? d <;> simp [eq_comm]

/-- Each half of a byte is the value of one digit. -/
theorem halves_lt (byte : UInt8) : byte.toNat / 16 < 16 ∧ byte.toNat % 16 < 16 :=
  ⟨Nat.div_lt_of_lt_mul byte.toNat_lt, Nat.mod_lt _ (by decide)⟩

theorem ofByte_eq_pair_iff {c d : Char} {byte : UInt8} :
    [c, d].map Char.toLower = ofByte byte
      ↔ value? c = some (byte.toNat / 16) ∧ value? d = some (byte.toNat % 16) := by
  obtain ⟨high, low⟩ := halves_lt byte
  simp [ofByte, value?_eq_some_iff, high, low]

theorem mem_ofByte {c : Char} {byte : UInt8} (member : c ∈ ofByte byte) : ∃ n < 16, c = Nat.digitChar n := by
  obtain ⟨high, low⟩ := halves_lt byte
  simp only [ofByte, List.mem_cons, List.not_mem_nil, or_false] at member
  rcases member with rfl | rfl
  · exact ⟨_, high, rfl⟩
  · exact ⟨_, low, rfl⟩

/-- A separator is no hex digit. -/
theorem not_mem_ofByte {separator : Char} (other : ∀ n < 16, Nat.digitChar n ≠ separator) (byte : UInt8) :
    separator ∉ ofByte byte := by
  intro member
  obtain ⟨n, small, rfl⟩ := mem_ofByte member
  exact other n small rfl

end Hex

/-- Only letters have two cases. -/
theorem toLower_eq_iff {c mark : Char} (early : mark.toNat < 65) : c.toLower = mark ↔ c = mark := by
  unfold Char.toLower
  split
  · rename_i bounds
    have from65 : 65 ≤ c.toNat := UInt32.le_iff_toNat_le.mp bounds.1
    have upTo90 : c.toNat ≤ 90 := UInt32.le_iff_toNat_le.mp bounds.2
    constructor
    · rintro rfl
      have moved : (c.val + ('a'.val - 'A'.val)).toNat = (c.toNat + 32) % 2 ^ 32 := UInt32.toNat_add ..
      change (c.val + ('a'.val - 'A'.val)).toNat < 65 at early
      omega
    · rintro rfl
      omega
  · rfl

namespace Mac

/-- The text spells the address: six groups of two hex digits in either case, with colons, hyphens or nothing between
them. -/
def SpelledBy (mac : Mac) (text : String) : Prop :=
  ∃ separator ∈ [[':'], ['-'], []], text.toList.map Char.toLower = mac.groupText separator

variable {text : List Char} {mac : Mac}

theorem octet_eq_ok_iff {group : List Char} {byte : UInt8} :
    octet group = .ok byte ↔ group.map Char.toLower = Hex.ofByte byte := by
  match group with
  | [] => simp [octet, byteWidth, Hex.ofByte]
  | [c] =>
    have short : [c].map Char.toLower ≠ Hex.ofByte byte := by simp [Hex.ofByte]
    refine iff_of_false ?_ short
    unfold octet
    split
    · exact nofun
    · rename_i wide
      cases known : Hex.value? c with
      | none => simp [Hex.number?, known]
      | some n => simp [byteWidth, Hex.utf8Size_of_value? known] at wide
  | [c, d] =>
    rw [Hex.ofByte_eq_pair_iff]
    constructor
    · intro reads
      unfold octet at reads
      split at reads
      · cases reads
      · split at reads
        · rename_i n number
          obtain ⟨high, low, first, second, rfl⟩ := Hex.number?_pair_eq_some_iff.mp number
          have smallHigh := (Hex.value?_lt first).1
          have smallLow := (Hex.value?_lt second).1
          have value : byte.toNat = 16 * high + low := by
            rw [← Except.ok.inj reads, UInt8.toNat_ofNat_of_lt']
            have : UInt8.size = 256 := rfl
            omega
          rw [value, first, second]
          constructor <;> congr 1 <;> omega
        · cases reads
    · rintro ⟨first, second⟩
      have width : byteWidth [c, d] = 2 := by
        simp [byteWidth, Hex.utf8Size_of_value? first, Hex.utf8Size_of_value? second]
      have number : Hex.number? [c, d] = some byte.toNat :=
        Hex.number?_pair_eq_some_iff.mpr ⟨_, _, first, second, by omega⟩
      simp [octet, width, number]
  | c :: d :: e :: rest =>
    have wide : byteWidth (c :: d :: e :: rest) ≠ 2 := by
      have := c.utf8Size_pos
      have := d.utf8Size_pos
      have := e.utf8Size_pos
      simp only [byteWidth]
      omega
    simp [octet, wide, Hex.ofByte]

theorem exists_octets (mac : Mac) : ∃ a b c d e f, mac = ⟨#v[a, b, c, d, e, f]⟩ := by
  obtain ⟨⟨⟨list⟩, size⟩⟩ := mac
  match list, size with
  | [a, b, c, d, e, f], _ => exact ⟨a, b, c, d, e, f, rfl⟩

theorem ofChars_eq_ok_iff :
    ofChars text = .ok mac ↔
      ∃ groups, groups? text = some groups ∧ groups.map (List.map Char.toLower) = mac.toBytes.map Hex.ofByte := by
  obtain ⟨a, b, c, d, e, f, rfl⟩ := mac.exists_octets
  change _ ↔ ∃ groups, _ ∧ _ = [Hex.ofByte a, Hex.ofByte b, Hex.ofByte c, Hex.ofByte d, Hex.ofByte e, Hex.ofByte f]
  unfold ofChars
  constructor
  · intro reads
    split at reads
    · rename_i g₁ g₂ g₃ g₄ g₅ g₆ known
      simp only [Checked.bind_eq_ok_iff_exists, octet_eq_ok_iff] at reads
      obtain ⟨_, r₁, _, r₂, _, r₃, _, r₄, _, r₅, _, r₆, same⟩ := reads
      cases same
      exact ⟨_, known, by simp only [List.map_cons, List.map_nil, r₁, r₂, r₃, r₄, r₅, r₆]⟩
    · cases reads
  · rintro ⟨groups, known, same⟩
    have six : groups.length = 6 := by simpa using congrArg List.length same
    match groups, six with
    | [g₁, g₂, g₃, g₄, g₅, g₆], _ =>
      simp only [List.map_cons, List.map_nil, List.cons.injEq, and_true, ← octet_eq_ok_iff] at same
      obtain ⟨r₁, r₂, r₃, r₄, r₅, r₆⟩ := same
      simp only [known, r₁, r₂, r₃, r₄, r₅, r₆]
      rfl

theorem flatten_pairs : ∀ text : List Char, (pairs text).flatten = text
  | [] => rfl
  | [_] => rfl
  | a :: b :: rest => congrArg (a :: b :: ·) (flatten_pairs rest)

theorem map_pairs (f : Char → Char) : ∀ text : List Char, (pairs text).map (List.map f) = pairs (text.map f)
  | [] => rfl
  | [_] => rfl
  | a :: b :: rest => congrArg ([f a, f b] :: ·) (map_pairs f rest)

theorem intercalate_nil_eq_flatten : ∀ groups : List (List Char), List.intercalate [] groups = groups.flatten
  | [] => rfl
  | [group] => by simp
  | group :: next :: rest => by simpa using intercalate_nil_eq_flatten (next :: rest)

/-- The separator of a text stands between its groups. -/
theorem intercalate_of_groups? {groups : List (List Char)} (known : groups? text = some groups) :
    ∃ separator ∈ [[':'], ['-'], []], List.intercalate separator groups = text := by
  unfold groups? at known
  split at known
  · obtain rfl := Option.some.inj known
    exact ⟨[':'], by simp, intercalate_fields ':' text⟩
  · split at known
    · obtain rfl := Option.some.inj known
      exact ⟨['-'], by simp, intercalate_fields '-' text⟩
    · split at known
      · obtain rfl := Option.some.inj known
        refine ⟨[], by simp, ?_⟩
        rw [intercalate_nil_eq_flatten, flatten_pairs]
      · cases known

theorem digitChar_ne_mark {n : Nat} (small : n < 16) : Nat.digitChar n ≠ ':' ∧ Nat.digitChar n ≠ '-' := by
  revert n
  decide

theorem mem_lower_iff {mark : Char} (early : mark.toNat < 65) : mark ∈ text.map Char.toLower ↔ mark ∈ text := by
  simp only [List.mem_map, toLower_eq_iff early, exists_eq_right]

/-- Characters that are digits in lower case take a byte each. -/
theorem byteWidth_eq_length (digits : ∀ c ∈ text.map Char.toLower, ∃ n < 16, c = Nat.digitChar n) :
    byteWidth text = text.length := by
  induction text with
  | nil => rfl
  | cons c rest ih =>
    rw [List.map_cons, List.forall_mem_cons] at digits
    obtain ⟨⟨n, small, digit⟩, later⟩ := digits
    rw [byteWidth, ih later, Hex.utf8Size_of_value? (Hex.value?_eq_some_iff.mpr ⟨small, digit⟩), List.length_cons,
      Nat.add_comm]

/-- A mark between the octets of a spelled address separates them. -/
theorem fields_of_spelled {bytes : Bytes} {mark : Char} (six : bytes.length = 6) (early : mark.toNat < 65)
    (other : ∀ n < 16, Nat.digitChar n ≠ mark)
    (spelled : text.map Char.toLower = List.intercalate [mark] (bytes.map Hex.ofByte)) :
    mark ∈ text ∧ (fields mark text).map (List.map Char.toLower) = bytes.map Hex.ofByte := by
  have given : bytes.map Hex.ofByte ≠ [] := by
    rintro none
    simp [List.map_eq_nil_iff.mp none] at six
  have parted : fields mark (text.map Char.toLower) = bytes.map Hex.ofByte := by
    rw [spelled]
    refine fields_intercalate given fun group member => ?_
    obtain ⟨byte, _, rfl⟩ := List.mem_map.mp member
    exact Hex.not_mem_ofByte other byte
  refine ⟨?_, (map_fields (fun _ => toLower_eq_iff early) text).trans parted⟩
  rw [← mem_lower_iff early]
  have several := congrArg List.length parted
  rw [length_fields, List.length_map, six] at several
  exact List.count_pos_iff.mp (by omega)

theorem mem_intercalate {c : Char} {separator : List Char} {groups : List (List Char)}
    (member : c ∈ List.intercalate separator groups) : c ∈ separator ∨ ∃ group ∈ groups, c ∈ group := by
  induction groups with
  | nil => simp at member
  | cons group rest ih =>
    cases rest with
    | nil => exact .inr ⟨group, by simp, by simpa using member⟩
    | cons next more =>
      rw [List.intercalate_cons_cons, List.append_assoc, List.mem_append, List.mem_append] at member
      rcases member with first | between | later
      · exact .inr ⟨group, by simp, first⟩
      · exact .inl between
      · obtain known | ⟨other, among, inside⟩ := ih later
        · exact .inl known
        · exact .inr ⟨other, List.mem_cons_of_mem _ among, inside⟩

/-- What a spelled address holds besides its separator are hex digits. -/
theorem digit_of_spelled {bytes : Bytes} {separator : List Char}
    (spelled : text.map Char.toLower = List.intercalate separator (bytes.map Hex.ofByte)) :
    ∀ c ∈ text.map Char.toLower, c ∈ separator ∨ ∃ n < 16, c = Nat.digitChar n := by
  intro c member
  rw [spelled] at member
  refine (mem_intercalate member).imp_right ?_
  rintro ⟨group, among, inside⟩
  obtain ⟨byte, _, rfl⟩ := List.mem_map.mp among
  exact Hex.mem_ofByte inside

/-- The groups of a spelled address are its octets, whatever the separator. -/
theorem groups?_of_spelled {bytes : Bytes} {separator : List Char} (six : bytes.length = 6)
    (usual : separator ∈ [[':'], ['-'], []])
    (spelled : text.map Char.toLower = List.intercalate separator (bytes.map Hex.ofByte)) :
    ∃ groups, groups? text = some groups ∧ groups.map (List.map Char.toLower) = bytes.map Hex.ofByte := by
  have digits := digit_of_spelled spelled
  have absent {mark : Char} (early : mark.toNat < 65) (other : ∀ n < 16, Nat.digitChar n ≠ mark)
      (elsewhere : mark ∉ separator) : mark ∉ text := by
    rw [← mem_lower_iff early]
    intro member
    obtain known | ⟨n, small, rfl⟩ := digits mark member
    · exact elsewhere known
    · exact other n small rfl
  have colon : ∀ n < 16, Nat.digitChar n ≠ ':' := fun n small => (digitChar_ne_mark small).1
  have hyphen : ∀ n < 16, Nat.digitChar n ≠ '-' := fun n small => (digitChar_ne_mark small).2
  simp only [List.mem_cons, List.not_mem_nil, or_false] at usual
  unfold groups?
  rcases usual with rfl | rfl | rfl
  · obtain ⟨here, parted⟩ := fields_of_spelled six (by decide) colon spelled
    exact ⟨_, if_pos here, parted⟩
  · obtain ⟨here, parted⟩ := fields_of_spelled six (by decide) hyphen spelled
    exact ⟨_, by rw [if_neg (absent (by decide) colon (by simp)), if_pos here], parted⟩
  · have length : text.length = 12 := by
      have whole := congrArg List.length spelled
      rw [intercalate_nil_eq_flatten, List.length_map] at whole
      match bytes, six, whole with
      | [_, _, _, _, _, _], _, whole => exact whole
    have width : byteWidth text = 12 := by
      rw [byteWidth_eq_length fun c member => (digits c member).resolve_left (by simp), length]
    refine ⟨pairs text, ?_, ?_⟩
    · rw [if_neg (absent (by decide) colon (by simp)), if_neg (absent (by decide) hyphen (by simp)),
        if_pos ⟨length, width⟩]
    · rw [map_pairs, spelled, intercalate_nil_eq_flatten]
      match bytes, six with
      | [_, _, _, _, _, _], _ => rfl

/-- An address is read from a text if and only if the text spells it. -/
theorem parse_eq_ok_iff (text : String) (mac : Mac) : parse text = .ok mac ↔ mac.SpelledBy text := by
  unfold parse
  rw [ofChars_eq_ok_iff]
  constructor
  · rintro ⟨groups, known, same⟩
    obtain ⟨separator, usual, whole⟩ := intercalate_of_groups? known
    refine ⟨separator, usual, ?_⟩
    have plain : separator.map Char.toLower = separator := by
      simp only [List.mem_cons, List.not_mem_nil, or_false] at usual
      rcases usual with rfl | rfl | rfl <;> rfl
    rw [← whole, map_intercalate, plain, same]
    rfl
  · rintro ⟨separator, usual, spelled⟩
    exact groups?_of_spelled (Vector.length_toList ..) usual spelled

end Mac

/-- The decimal digit that a character is. -/
theorem toDigits_of_isDigit {c : Char} (digit : c.isDigit = true) : Nat.toDigits 10 (c.toNat - '0'.toNat) = [c] := by
  simp only [Char.isDigit, Bool.and_eq_true, decide_eq_true_eq, UInt32.le_iff_toNat_le] at digit
  change 48 ≤ c.toNat ∧ c.toNat ≤ 57 at digit
  have zero : '0'.toNat = 48 := rfl
  have small : c.toNat - 48 < 10 := by omega
  rw [zero, Nat.toDigits_of_lt_base small]
  congr 1
  rw [← Char.toNat_inj, Nat.toNat_digitChar_of_lt_ten small]
  omega

/-- Reading digits on top of a number and writing the result appends them to it. -/
theorem toDigits_ofDigitChars_of_pos {n : Nat} {digits : List Char} (all : ∀ c ∈ digits, c.isDigit = true)
    (positive : 0 < n) : Nat.toDigits 10 (Nat.ofDigitChars 10 digits n) = Nat.toDigits 10 n ++ digits := by
  induction digits generalizing n with
  | nil => rw [Nat.ofDigitChars_nil, List.append_nil]
  | cons c rest ih =>
    rw [List.forall_mem_cons] at all
    have single := toDigits_of_isDigit all.1
    have small : c.toNat - '0'.toNat < 10 := by
      have short := congrArg List.length single
      have one : (Nat.toDigits 10 (c.toNat - '0'.toNat)).length ≤ 1 := Nat.le_of_eq short
      exact (Nat.length_toDigits_le_iff (by decide) (by decide)).mp one
    rw [Nat.ofDigitChars_cons, ih all.2 (by omega), ← Nat.toDigits_append_toDigits (by decide) positive small, single,
      List.append_assoc]
    rfl

/-- A number is written as it was read, unless that was with zeros in front. -/
theorem toDigits_ofDigitChars {digits : List Char} (given : digits ≠ []) (all : ∀ c ∈ digits, c.isDigit = true)
    (canonical : ¬ (digits.length > 1 ∧ digits.head? = some '0')) :
    Nat.toDigits 10 (Nat.ofDigitChars 10 digits 0) = digits := by
  obtain ⟨c, rest, rfl⟩ := List.exists_cons_of_ne_nil given
  rw [List.forall_mem_cons] at all
  have single := toDigits_of_isDigit all.1
  rw [Nat.ofDigitChars_cons, Nat.mul_zero, Nat.zero_add]
  by_cases zero : c = '0'
  · subst zero
    cases rest with
    | nil => rfl
    | cons => simp at canonical
  · have positive : 0 < c.toNat - '0'.toNat := by
      refine Nat.pos_of_ne_zero fun none => zero ?_
      rw [none] at single
      exact (List.cons.inj single).1.symm
    rw [toDigits_ofDigitChars_of_pos all.2 positive, single]
    rfl

namespace Ipv4

theorem octet_eq_ok_iff {digits : List Char} {byte : UInt8} :
    octet digits = .ok byte ↔ digits = Nat.toDigits 10 byte.toNat := by
  constructor
  · intro reads
    unfold octet at reads
    split at reads
    · cases reads
    · rename_i given
      rw [not_or, Decidable.not_not, List.all_eq_true] at given
      split at reads
      · cases reads
      · rename_i canonical
        split at reads
        · cases reads
        · rename_i fits
          have value : byte.toNat = Nat.ofDigitChars 10 digits 0 := by
            rw [← Except.ok.inj reads, UInt8.toNat_ofNat_of_lt']
            have : UInt8.size = 256 := rfl
            omega
          rw [value, toDigits_ofDigitChars given.1 given.2 canonical]
  · rintro rfl
    have all : ∀ n < 256, (octet (Nat.toDigits 10 n)).toOption = some (UInt8.ofNat n) := by decide +kernel
    have known := all byte.toNat byte.toNat_lt
    cases reads : octet (Nat.toDigits 10 byte.toNat) with
    | error rule => simp [reads, Except.toOption] at known
    | ok read =>
      rw [reads, UInt8.ofNat_toNat] at known
      rw [Option.some.inj known]

/-- An address is read from a text if and only if that is its text. -/
theorem parse_eq_ok_iff (text : String) (addr : Ipv4) : parse text = .ok addr ↔ addr.toText = text := by
  unfold parse ofChars
  constructor
  · intro reads
    split at reads
    · rename_i a b c d parted
      simp only [Checked.bind_eq_ok_iff_exists, octet_eq_ok_iff] at reads
      obtain ⟨_, rfl, _, rfl, _, rfl, _, rfl, same⟩ := reads
      cases same
      have whole := intercalate_fields '.' text.toList
      rw [parted] at whole
      change String.ofList (List.intercalate ['.'] [_, _, _, _]) = text
      rw [whole, String.ofList_toList]
    · cases reads
  · rintro rfl
    have parted : fields '.' addr.chars = addr.octets.map fun octet => Nat.toDigits 10 octet.toNat := by
      refine fields_intercalate (List.cons_ne_nil _ _) fun digits member dot => ?_
      obtain ⟨octet, _, rfl⟩ := List.mem_map.mp member
      have digit := Nat.isDigit_of_mem_toDigits (by decide) (by decide) dot
      cases digit
    rw [toText, String.toList_ofList, parted]
    simp only [octets, List.map_cons, List.map_nil, octet_eq_ok_iff.mpr rfl]
    rfl

end Ipv4

end VirtualLink
