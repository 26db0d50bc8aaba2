import VirtualLink.Text.Cut
import VirtualLink.Proofs.Fitting
import VirtualLink.Proofs.Spelling

namespace VirtualLink

variable {text : List Char} {groups : List (List Char)}

/-- The character takes one byte. -/
def IsAscii (c : Char) : Prop :=
  c.toNat < 128

instance : DecidablePred IsAscii :=
  fun c => inferInstanceAs (Decidable (c.toNat < 128))

theorem isAscii_iff_utf8Size {c : Char} : IsAscii c ↔ c.utf8Size = 1 := by
  rw [Char.utf8Size_eq_one_iff, UInt32.le_iff_toNat_le]
  exact Nat.lt_succ_iff

theorem length_le_byteWidth (text : List Char) : text.length ≤ byteWidth text := by
  induction text with
  | nil => exact Nat.le_refl _
  | cons c rest ih =>
    have wide := c.utf8Size_pos
    rw [List.length_cons, byteWidth]
    omega

theorem byteWidth_eq_length_iff : byteWidth text = text.length ↔ ∀ c ∈ text, IsAscii c := by
  induction text with
  | nil => exact iff_of_true rfl nofun
  | cons c rest ih =>
    have wide := c.utf8Size_pos
    have longer := length_le_byteWidth rest
    rw [List.forall_mem_cons, ← ih, isAscii_iff_utf8Size, byteWidth, List.length_cons]
    omega

/-! Cuts between characters. -/

theorem dropBytes?_append (front back : List Char) : dropBytes? (byteWidth front) (front ++ back) = some back := by
  induction front with
  | nil => cases back <;> rfl
  | cons c rest ih =>
    have wide := c.utf8Size_pos
    have inside : c.utf8Size + byteWidth rest ≠ 0 := by omega
    rw [List.cons_append, byteWidth, dropBytes?, if_neg inside, if_pos (Nat.le_add_right ..), Nat.add_sub_cancel_left,
      ih]

theorem takeBytes?_append (front back : List Char) : takeBytes? (byteWidth front) (front ++ back) = some front := by
  induction front with
  | nil => cases back <;> rfl
  | cons c rest ih =>
    have wide := c.utf8Size_pos
    have inside : c.utf8Size + byteWidth rest ≠ 0 := by omega
    rw [List.cons_append, byteWidth, takeBytes?, if_neg inside, if_pos (Nat.le_add_right ..), Nat.add_sub_cancel_left,
      ih, Option.map_some]

/-- The bytes from one place up to another; `none` if one of the places is inside a character or behind the end. -/
def slice? (start stop : Nat) (text : List Char) : Option (List Char) :=
  (dropBytes? start text).bind (takeBytes? (stop - start))

theorem slice?_append (front middle back : List Char) :
    slice? (byteWidth front) (byteWidth front + byteWidth middle) (front ++ (middle ++ back)) = some middle := by
  rw [slice?, dropBytes?_append, Option.bind_some, Nat.add_sub_cancel_left, takeBytes?_append]

namespace Mac

theorem pairs_flatten (two : ∀ group ∈ groups, group.length = 2) : pairs groups.flatten = groups := by
  induction groups with
  | nil => rfl
  | cons group rest ih =>
    rw [List.forall_mem_cons] at two
    match group, two.1 with
    | [a, b], _ => exact congrArg ([a, b] :: ·) (ih two.2)

theorem length_of_mem_pairs {n : Nat} (even : text.length = 2 * n) : ∀ group ∈ pairs text, group.length = 2 := by
  induction n generalizing text with
  | zero =>
    obtain rfl := List.length_eq_zero_iff.mp even
    exact nofun
  | succ n ih =>
    match text, even with
    | a :: b :: rest, even =>
      rw [pairs, List.forall_mem_cons]
      refine ⟨rfl, ih ?_⟩
      simp only [List.length_cons] at even
      omega

theorem getElem?_pairs {place : Nat} (within : 2 * place + 2 ≤ text.length) :
    (pairs text)[place]? = some ((text.drop (2 * place)).take 2) := by
  induction place generalizing text with
  | zero =>
    match text, within with
    | a :: b :: rest, _ => rfl
  | succ place ih =>
    match text, within with
    | a :: b :: rest, within =>
      have fits : 2 * place + 2 ≤ rest.length := by
        simp only [List.length_cons] at within
        omega
      exact ih fits

/-- Twelve bytes of ASCII, and no separator among them. -/
structure Bare (text : List Char) : Prop where
  colonless : ':' ∉ text
  hyphenless : '-' ∉ text
  bytes : byteWidth text = 12
  ascii : ∀ c ∈ text, IsAscii c

theorem Bare.length (bare : Bare text) : text.length = 12 :=
  (byteWidth_eq_length_iff.mpr bare.ascii).symm.trans bare.bytes

theorem bare_iff : Bare text ↔ ':' ∉ text ∧ '-' ∉ text ∧ text.length = 12 ∧ byteWidth text = 12 := by
  constructor
  · intro bare
    exact ⟨bare.colonless, bare.hyphenless, bare.length, bare.bytes⟩
  · rintro ⟨colonless, hyphenless, length, bytes⟩
    exact ⟨colonless, hyphenless, bytes, byteWidth_eq_length_iff.mp (bytes.trans length.symm)⟩

/-- The text falls into these groups: at its colons if it has any, else at its hyphens if it has any, else by pairs. -/
inductive Grouped (text : List Char) (groups : List (List Char)) : Prop
  | colons (several : 2 ≤ groups.length) (free : ∀ group ∈ groups, ':' ∉ group)
      (whole : List.intercalate [':'] groups = text)
  | hyphens (several : 2 ≤ groups.length) (colonless : ':' ∉ text) (free : ∀ group ∈ groups, '-' ∉ group)
      (whole : List.intercalate ['-'] groups = text)
  | pairs (bare : Bare text) (two : ∀ group ∈ groups, group.length = 2) (whole : groups.flatten = text)

theorem groups?_eq_some_iff : groups? text = some groups ↔ Grouped text groups := by
  unfold groups?
  constructor
  · intro known
    split at known
    · rename_i colon
      obtain rfl := Option.some.inj known
      exact .colons (two_le_length_fields_iff.mpr colon) (fun _ => not_mem_of_mem_fields) (intercalate_fields ':' text)
    · rename_i colonless
      split at known
      · rename_i hyphen
        obtain rfl := Option.some.inj known
        exact .hyphens (two_le_length_fields_iff.mpr hyphen) colonless (fun _ => not_mem_of_mem_fields)
          (intercalate_fields '-' text)
      · rename_i hyphenless
        split at known
        · rename_i narrow
          obtain rfl := Option.some.inj known
          have bare := bare_iff.mpr ⟨colonless, hyphenless, narrow⟩
          exact .pairs bare (length_of_mem_pairs (n := 6) narrow.1) (flatten_pairs text)
        · cases known
  · intro grouped
    cases grouped with
    | colons several free whole =>
      obtain ⟨colon, parted⟩ := fields_eq_of_several several free whole
      rw [if_pos colon, parted]
    | hyphens several colonless free whole =>
      obtain ⟨hyphen, parted⟩ := fields_eq_of_several several free whole
      rw [if_neg colonless, if_pos hyphen, parted]
    | pairs bare two whole =>
      obtain ⟨colonless, hyphenless, narrow⟩ := bare_iff.mp bare
      rw [if_neg colonless, if_neg hyphenless, if_pos narrow, ← whole, pairs_flatten two]

/-- The pairs of a bare text are its bytes two by two, and each begins and ends where a character does. -/
theorem Bare.slice?_pairs (bare : Bare text) {place : Nat} (within : place < 6) :
    ∃ group, slice? (2 * place) (2 * place + 2) text = some group
      ∧ (groups? text).bind (·[place]?) = some group := by
  have length := bare.length
  have narrow {part : List Char} (among : part ⊆ text) : byteWidth part = part.length :=
    byteWidth_eq_length_iff.mpr fun c member => bare.ascii c (among member)
  have front : byteWidth (text.take (2 * place)) = 2 * place := by
    rw [narrow (List.take_subset ..), List.length_take]
    omega
  have middle : byteWidth ((text.drop (2 * place)).take 2) = 2 := by
    have inside := List.Subset.trans (List.take_subset 2 (text.drop (2 * place))) (List.drop_subset (2 * place) text)
    rw [narrow inside, List.length_take, List.length_drop]
    omega
  have slice := slice?_append (text.take (2 * place)) ((text.drop (2 * place)).take 2) ((text.drop (2 * place)).drop 2)
  rw [List.take_append_drop, List.take_append_drop, front, middle] at slice
  obtain ⟨colonless, hyphenless, twelve⟩ := bare_iff.mp bare
  refine ⟨_, slice, ?_⟩
  rw [groups?, if_neg colonless, if_neg hyphenless, if_pos twelve]
  exact getElem?_pairs (by omega)

/-! Which group decides. -/

/-- Two hex digits, in either case. -/
def IsOctet (group : List Char) : Prop :=
  ∃ byte, group.map Char.toLower = Hex.ofByte byte

theorem isOctet_iff {group : List Char} : IsOctet group ↔ ∃ byte, octet group = .ok byte := by
  simp only [IsOctet, octet_eq_ok_iff]

/-- The text has six groups, and of these this is the first that is no octet. -/
def Decides (text bad : List Char) : Prop :=
  ∃ groups, Grouped text groups ∧ groups.length = 6 ∧ FirstBad IsOctet groups bad

/-- Why a text is refused: it has no six groups, or the first group that is no octet decides. -/
inductive Faulty (text : List Char) : Fault → Prop
  | groupCount (other : ∀ groups, Grouped text groups → groups.length ≠ 6) : Faulty text .groupCount
  | groupWidth {bad : List Char} (decides : Decides text bad) (width : byteWidth bad ≠ 2) : Faulty text .groupWidth
  | hexDigit {bad : List Char} (decides : Decides text bad) (width : byteWidth bad = 2) : Faulty text .hexDigit

theorem octet_of_width {group : List Char} (width : byteWidth group ≠ 2) : octet group = .error .groupWidth :=
  if_pos width

theorem octet_of_digits {group : List Char} (width : byteWidth group = 2) (bad : ¬ IsOctet group) :
    octet group = .error .hexDigit := by
  rw [isOctet_iff] at bad
  have narrow : ¬ byteWidth group ≠ 2 := fun wide => wide width
  unfold octet at bad ⊢
  rw [if_neg narrow] at bad ⊢
  cases known : Hex.number? group with
  | none => rfl
  | some n =>
    rw [known] at bad
    exact absurd ⟨_, rfl⟩ bad

theorem ofChars_of_not_six (other : ∀ groups, Grouped text groups → groups.length ≠ 6) :
    ofChars text = .error .groupCount := by
  unfold ofChars
  split
  · rename_i known
    exact absurd rfl (other _ (groups?_eq_some_iff.mp known))
  · rfl

/-- Six groups are read one by one. -/
theorem ofChars_eq_error_of_six {fault : Fault} (grouped : Grouped text groups) (six : groups.length = 6) :
    ofChars text = .error fault ↔ ∃ bad, FirstBad IsOctet groups bad ∧ octet bad = .error fault := by
  rw [← Checked.mapM_eq_error_iff fun _ => isOctet_iff]
  have known := groups?_eq_some_iff.mpr grouped
  match groups, six with
  | [g₁, g₂, g₃, g₄, g₅, g₆], _ =>
    have whole : ofChars text = (fun bytes => (ofBytes? bytes).getD zero) <$> [g₁, g₂, g₃, g₄, g₅, g₆].mapM octet := by
      simp [ofChars, known, ofBytes?]
    rw [whole]
    exact Checked.map_eq_error_iff

theorem Decides.ofChars {bad : List Char} {fault : Fault} (decides : Decides text bad)
    (broken : octet bad = .error fault) : ofChars text = .error fault := by
  obtain ⟨groups, grouped, six, first⟩ := decides
  exact (ofChars_eq_error_of_six grouped six).mpr ⟨bad, first, broken⟩

theorem Decides.not_octet {bad : List Char} (decides : Decides text bad) : ¬ IsOctet bad := by
  obtain ⟨groups, grouped, six, first⟩ := decides
  exact first.not_good

/-- What is refused is refused for the fault of the grammar. -/
theorem ofChars_eq_error_iff {fault : Fault} : ofChars text = .error fault ↔ Faulty text fault := by
  constructor
  · intro refused
    by_cases six : ∃ groups, Grouped text groups ∧ groups.length = 6
    · obtain ⟨groups, grouped, six⟩ := six
      obtain ⟨bad, first, broken⟩ := (ofChars_eq_error_of_six grouped six).mp refused
      have decides : Decides text bad := ⟨groups, grouped, six, first⟩
      by_cases width : byteWidth bad = 2
      · rw [octet_of_digits width first.not_good] at broken
        cases broken
        exact .hexDigit decides width
      · rw [octet_of_width width] at broken
        cases broken
        exact .groupWidth decides width
    · -- a text that cannot be grouped is told the same as one with another number of groups
      have other : ∀ groups, Grouped text groups → groups.length ≠ 6 :=
        fun groups grouped length => six ⟨groups, grouped, length⟩
      rw [ofChars_of_not_six other] at refused
      cases refused
      exact .groupCount other
  · intro faulty
    cases faulty with
    | groupCount other => exact ofChars_of_not_six other
    | groupWidth decides width => exact decides.ofChars (octet_of_width width)
    | hexDigit decides width => exact decides.ofChars (octet_of_digits width decides.not_octet)

theorem readMac_eq_ok_iff {text : String} {mac : Mac} :
    readMac text = .ok mac ↔ mac.SpelledBy text ∧ mac.Assignable := by
  rw [← parse_eq_ok_iff, ← checkMac_eq_ok_iff_assignable]
  constructor
  · exact parse_of_readMac
  · rintro ⟨reads, passes⟩
    simp only [readMac, reads, passes]
    rfl

/-- A text spells one address only. -/
theorem SpelledBy.unique {text : String} {mac other : Mac} (spelled : mac.SpelledBy text)
    (again : other.SpelledBy text) : other = mac := by
  rw [← parse_eq_ok_iff] at spelled again
  exact Except.ok.inj (again.symm.trans spelled)

theorem toLower_of_mem_groupText {mac : Mac} {separator : List Char} (usual : separator ∈ [[':'], ['-'], []]) {c : Char}
    (member : c ∈ mac.groupText separator) : c.toLower = c := by
  have digits : ∀ n < 16, (Nat.digitChar n).toLower = Nat.digitChar n := by decide
  rcases mem_intercalate member with mark | ⟨group, among, inside⟩
  · simp only [List.mem_cons, List.not_mem_nil, or_false] at usual
    rcases usual with rfl | rfl | rfl
    · rw [List.mem_singleton.mp mark]
      rfl
    · rw [List.mem_singleton.mp mark]
      rfl
    · cases mark
  · obtain ⟨byte, -, rfl⟩ := List.mem_map.mp among
    obtain ⟨n, small, rfl⟩ := Hex.mem_ofByte inside
    exact digits n small

theorem spelledBy_toText (mac : Mac) : mac.SpelledBy mac.toText := by
  refine ⟨[':'], List.mem_cons_self .., ?_⟩
  rw [toText, String.toList_ofList, List.map_congr_left fun c => toLower_of_mem_groupText (List.mem_cons_self ..),
    List.map_id']

/-- A text is read if and only if it spells an address, and else the fault is the one of the grammar. The pairs of a
text without separators are slices of its bytes that never fall inside a character. Every spelling of an address is
read as that address, and is accepted for a link if and only if the address is neither zero nor one of a group. -/
theorem parse_follows_grammar :
    (∀ text mac, parse text = .ok mac ↔ mac.SpelledBy text)
      ∧ (∀ text fault, parse text = .error fault ↔ Faulty text.toList fault)
      ∧ (∀ text, Bare text → ∀ place < 6, ∃ group, slice? (2 * place) (2 * place + 2) text = some group
          ∧ (groups? text).bind (·[place]?) = some group)
      ∧ (∀ mac : Mac, ∀ separator ∈ [[':'], ['-'], []], ∀ text : String,
          text.toList.map Char.toLower = mac.groupText separator →
            parse text = .ok mac ∧ ∀ accepted, readMac text = .ok accepted ↔ accepted = mac ∧ mac.Assignable)
      ∧ ∀ mac : Mac, parse mac.toText = .ok mac := by
  refine ⟨parse_eq_ok_iff, fun text fault => ofChars_eq_error_iff, fun text bare place => bare.slice?_pairs, ?_, ?_⟩
  · intro mac separator usual text lower
    have spelled : mac.SpelledBy text := ⟨separator, usual, lower⟩
    refine ⟨(parse_eq_ok_iff text mac).mpr spelled, fun accepted => ?_⟩
    rw [readMac_eq_ok_iff]
    constructor
    · rintro ⟨again, assignable⟩
      obtain rfl := spelled.unique again
      exact ⟨rfl, assignable⟩
    · rintro ⟨rfl, assignable⟩
      exact ⟨spelled, assignable⟩
  · intro mac
    exact (parse_eq_ok_iff mac.toText mac).mpr mac.spelledBy_toText

/-- An address without separators and in upper case, and the slice of its second octet. -/
theorem parse_follows_grammar_bare :
    parse "02AB0000000C" = .ok ⟨#v[0x02, 0xAB, 0, 0, 0, 0x0C]⟩
      ∧ readMac "02AB0000000C" = .ok ⟨#v[0x02, 0xAB, 0, 0, 0, 0x0C]⟩
      ∧ ∃ group, slice? 2 4 "02AB0000000C".toList = some group := by
  obtain ⟨-, -, slices, spelled, -⟩ := parse_follows_grammar
  obtain ⟨reads, accepts⟩ := spelled ⟨#v[0x02, 0xAB, 0, 0, 0, 0x0C]⟩ [] (by decide) "02AB0000000C" (by decide)
  have bare : Bare "02AB0000000C".toList := bare_iff.mpr (by decide)
  obtain ⟨group, slice, -⟩ := slices "02AB0000000C".toList bare 1 (by decide)
  exact ⟨reads, (accepts _).mpr ⟨rfl, by decide, by decide⟩, group, slice⟩

end Mac

end VirtualLink
