import Mathlib.Data.Nat.Bitwise
import VirtualLink.Proofs.Spelling

namespace VirtualLink

theorem fields_of_not_mem {separator : Char} {text : List Char} (free : separator ∉ text) :
    fields separator text = [text] := by
  have single : fields separator (List.intercalate [separator] [text]) = [text] :=
    fields_intercalate (List.cons_ne_nil _ _) (List.forall_mem_singleton.mpr free)
  rwa [List.intercalate_singleton] at single

namespace Hex

theorem value?_digitChar {digit : Nat} (small : digit < 16) : value? (Nat.digitChar digit) = some digit := by
  revert digit
  decide

theorem mem_toDigits {c : Char} {n : Nat} (member : c ∈ Nat.toDigits 16 n) :
    ∃ digit < 16, c = Nat.digitChar digit := by
  induction n using Nat.strongRecOn with
  | ind n ih =>
    by_cases small : n < 16
    · rw [Nat.toDigits_of_lt_base small, List.mem_singleton] at member
      exact ⟨n, small, member⟩
    · rw [Nat.toDigits_of_base_le (by decide) (by omega), List.mem_append, List.mem_singleton] at member
      rcases member with before | last
      · exact ih (n / 16) (by omega) before
      · exact ⟨n % 16, Nat.mod_lt _ (by decide), last⟩

theorem not_mem_toDigits {mark : Char} (other : ∀ digit < 16, Nat.digitChar digit ≠ mark) (n : Nat) :
    mark ∉ Nat.toDigits 16 n := by
  intro member
  obtain ⟨digit, small, same⟩ := mem_toDigits member
  exact other digit small same.symm

/-- A number is read from its digits. -/
theorem number?_toDigits (n : Nat) : number? (Nat.toDigits 16 n) = some n := by
  induction n using Nat.strongRecOn with
  | ind n ih =>
    by_cases small : n < 16
    · rw [Nat.toDigits_of_lt_base small, number?, List.foldlM_cons, value?_digitChar small]
      simp
    · have known := ih (n / 16) (by omega)
      have last := value?_digitChar (Nat.mod_lt n (by decide : 16 > 0))
      rw [number?] at known
      rw [Nat.toDigits_of_base_le (by decide) (by omega), number?, List.foldlM_append, known]
      simp [last]
      omega

end Hex

theorem Ipv4.colon_not_mem_chars (addr : Ipv4) : ':' ∉ addr.chars := by
  intro member
  obtain dot | ⟨digits, among, inside⟩ := Mac.mem_intercalate member
  · exact absurd (List.mem_singleton.mp dot) (by decide)
  · obtain ⟨octet, _, rfl⟩ := List.mem_map.mp among
    have digit := Nat.isDigit_of_mem_toDigits (by decide) (by decide) inside
    cases digit

namespace Ipv6

/-- Among the runs of zero groups from these starts on, this is the longest, and the first of its length. -/
structure LongestRun (groups : List UInt16) (starts : Nat) (run : Nat × Nat) : Prop where
  zeros : run.2 ≤ zerosAhead (groups.drop run.1)
  longest : ∀ start < starts, zerosAhead (groups.drop start) ≤ run.2
  first : ∀ start < run.1, zerosAhead (groups.drop start) < run.2

/-- The run that starts next takes the place of the longest one only if it is longer. -/
theorem LongestRun.next {groups : List UInt16} {starts : Nat} {run : Nat × Nat}
    (known : LongestRun groups starts run) :
    LongestRun groups (starts + 1)
      (if zerosAhead (groups.drop starts) > run.2 then (starts, zerosAhead (groups.drop starts)) else run) := by
  split
  · rename_i longer
    refine ⟨Nat.le_refl _, fun start upTo => ?_, fun start before => ?_⟩
    · rcases Nat.lt_succ_iff_lt_or_eq.mp upTo with before | rfl
      · exact Nat.le_of_lt (Nat.lt_of_le_of_lt (known.longest start before) longer)
      · exact Nat.le_refl _
    · exact Nat.lt_of_le_of_lt (known.longest start before) longer
  · rename_i longest
    refine { known with longest := fun start upTo => ?_ }
    rcases Nat.lt_succ_iff_lt_or_eq.mp upTo with before | rfl
    · exact known.longest start before
    · exact Nat.not_lt.mp longest

theorem longestZeroRun_longest (groups : List UInt16) : LongestRun groups groups.length (longestZeroRun groups) := by
  unfold longestZeroRun
  induction groups.length with
  | zero => exact ⟨Nat.zero_le _, nofun, nofun⟩
  | succ starts ih =>
    rw [List.range_succ, List.foldl_append]
    exact ih.next

/-- The IPv4 address that two groups carry. -/
def carried (high low : UInt16) : Ipv4 :=
  Ipv4.ofWord ((high.toUInt32 <<< 16) ||| low.toUInt32)

/-- The text form of an address. The longest run of zero groups is left out if it is longer than one group, and of
equal ones the first. An address that carries an IPv4 address, and no other, ends in a dotted quad. -/
inductive Written (addr : Ipv6) : List Char → Prop
  | mapped (high low : UInt16) (carries : addr.groups.toList = [0, 0, 0, 0, 0, 0xFFFF, high, low]) :
    Written addr ("::ffff:".toList ++ (carried high low).chars)
  | compressed (run : Nat × Nat) (plain : ∀ high low, addr.groups.toList ≠ [0, 0, 0, 0, 0, 0xFFFF, high, low])
    (longest : LongestRun addr.groups.toList 8 run) (several : 2 ≤ run.2) :
    Written addr (groupChars (addr.groups.toList.take run.1) ++ [':', ':']
      ++ groupChars (addr.groups.toList.drop (run.1 + run.2)))
  | whole (plain : ∀ high low, addr.groups.toList ≠ [0, 0, 0, 0, 0, 0xFFFF, high, low])
    (single : ∀ start < 8, zerosAhead (addr.groups.toList.drop start) < 2) :
    Written addr (groupChars addr.groups.toList)

theorem written_chars (addr : Ipv6) : addr.Written addr.chars := by
  unfold chars
  split
  · rename_i high low carries
    exact .mapped high low carries
  · rename_i plain
    have longest := longestZeroRun_longest addr.groups.toList
    rw [Vector.length_toList] at longest
    unfold compressedChars
    dsimp only
    split
    · rename_i several
      exact .compressed _ plain longest several
    · rename_i single
      refine .whole plain fun start inside => ?_
      have bound := longest.longest start inside
      omega

/-! Reading a text form. -/

/-- One group in hex. -/
def digits (group : UInt16) : List Char :=
  Nat.toDigits 16 group.toNat

theorem digits_ne_nil (group : UInt16) : digits group ≠ [] :=
  Nat.toDigits_ne_nil

theorem colon_not_mem_digits (group : UInt16) : ':' ∉ digits group :=
  Hex.not_mem_toDigits (by decide) _

theorem group?_digits (group : UInt16) : group? (digits group) = some group := by
  have short : (digits group).length ≤ 4 :=
    (Nat.length_toDigits_le_iff (by decide) (by decide)).mpr group.toNat_lt
  unfold group?
  rw [if_neg (not_or.mpr ⟨digits_ne_nil group, Nat.not_lt.mpr short⟩), digits, Hex.number?_toDigits, Option.map_some,
    UInt16.ofNat_toNat]

theorem mapM_group? (groups : List UInt16) : (groups.map digits).mapM group? = some groups := by
  induction groups with
  | nil => rfl
  | cons group rest ih => simp [group?_digits, ih]

/-- A group is no dotted quad. -/
theorem tailGroups?_digits (groups : List UInt16) : tailGroups? (groups.map digits) = some groups := by
  induction groups with
  | nil => rfl
  | cons group rest ih =>
    cases rest with
    | nil =>
      have dotless : '.' ∉ Nat.toDigits 16 group.toNat := Hex.not_mem_toDigits (by decide) _
      have single := fields_of_not_mem dotless
      simp only [List.map_cons, List.map_nil, tailGroups?, Ipv4.ofChars, digits, single]
      exact congrArg (Option.map _) (group?_digits group)
    | cons next more =>
      rw [List.map_cons] at ih
      simp [tailGroups?, group?_digits, ih]

theorem fields_groupChars {groups : List UInt16} (given : groups ≠ []) :
    fields ':' (groupChars groups) = groups.map digits := by
  refine fields_intercalate (fun none => given (List.map_eq_nil_iff.mp none)) fun field member => ?_
  obtain ⟨group, _, rfl⟩ := List.mem_map.mp member
  exact colon_not_mem_digits group

theorem sideFields_groupChars (groups : List UInt16) : sideFields (groupChars groups) = groups.map digits := by
  cases groups with
  | nil => rfl
  | cons group rest =>
    have parted := fields_groupChars (List.cons_ne_nil group rest)
    have given : groupChars (group :: rest) ≠ [] := by
      intro none
      rw [none] at parted
      exact digits_ne_nil group (List.cons.inj parted).1.symm
    rw [sideFields, if_neg given, parted]

theorem splitGap?_cons {c : Char} {text : List Char} (apart : c = ':' → text.head? ≠ some ':') :
    splitGap? (c :: text) = (splitGap? text).map fun gap => (c :: gap.1, gap.2) := by
  rw [splitGap?]
  rintro rest rfl rfl
  exact apart rfl rfl

theorem splitGap?_append {front : List Char} (free : ':' ∉ front) (rest : List Char) :
    splitGap? (front ++ rest) = (splitGap? rest).map fun gap => (front ++ gap.1, gap.2) := by
  induction front with
  | nil => simp
  | cons c front ih =>
    rw [List.mem_cons, not_or] at free
    rw [List.cons_append, splitGap?_cons fun same => absurd same.symm free.1, ih free.2, Option.map_map]
    rfl

theorem groupChars_cons_cons (group next : UInt16) (more : List UInt16) :
    groupChars (group :: next :: more) = digits group ++ ':' :: groupChars (next :: more) := by
  simp [groupChars, digits]

theorem head?_groupChars (group : UInt16) (rest : List UInt16) (text : List Char) :
    (groupChars (group :: rest) ++ text).head? ≠ some ':' := by
  have start : ∃ more, groupChars (group :: rest) = digits group ++ more := by
    cases rest with
    | nil => exact ⟨[], by simp [groupChars, digits]⟩
    | cons next more => exact ⟨_, groupChars_cons_cons group next more⟩
  obtain ⟨more, start⟩ := start
  obtain ⟨c, tail, known⟩ := List.exists_cons_of_ne_nil (digits_ne_nil group)
  rw [start, known]
  intro same
  have colon : ':' = c := (Option.some.inj same).symm
  exact colon_not_mem_digits group (known ▸ colon ▸ List.mem_cons_self)

/-- There is no gap within groups. -/
theorem splitGap?_groupChars (groups : List UInt16) (text : List Char) :
    splitGap? (groupChars groups ++ text) = (splitGap? text).map fun gap => (groupChars groups ++ gap.1, gap.2) := by
  induction groups with
  | nil => simp [groupChars]
  | cons group rest ih =>
    cases rest with
    | nil =>
      have single : groupChars [group] = digits group := by simp [groupChars, digits]
      rw [single, splitGap?_append (colon_not_mem_digits group)]
    | cons next more =>
      rw [groupChars_cons_cons, List.append_assoc, splitGap?_append (colon_not_mem_digits group), List.cons_append,
        splitGap?_cons fun _ => head?_groupChars next more text, ih, Option.map_map, Option.map_map]
      simp only [Function.comp_def, List.append_assoc, List.cons_append]

theorem ofGroups?_toList (addr : Ipv6) : ofGroups? addr.groups.toList = some addr := by
  obtain ⟨⟨⟨list⟩, size⟩⟩ := addr
  match list, size with
  | [_, _, _, _, _, _, _, _], _ => rfl

theorem zerosAhead_le (groups : List UInt16) : zerosAhead groups ≤ groups.length :=
  (List.takeWhile_prefix _).length_le

theorem take_of_le_zerosAhead {groups : List UInt16} {n : Nat} (zeros : n ≤ zerosAhead groups) :
    groups.take n = List.replicate n 0 := by
  refine List.eq_replicate_iff.mpr ⟨?_, fun group member => ?_⟩
  · exact List.length_take_of_le (Nat.le_trans zeros (zerosAhead_le groups))
  · have within : groups.take n <+: groups.takeWhile (· == 0) :=
      List.prefix_of_prefix_length_le (List.take_prefix n groups) (List.takeWhile_prefix _)
        (Nat.le_trans (List.length_take_le n groups) zeros)
    exact eq_of_beq (List.all_eq_true.mp List.all_takeWhile group (within.subset member))

/-- The groups of an address are those on both sides of a run of zeros. -/
theorem toList_eq_of_zeros {addr : Ipv6} {run : Nat × Nat}
    (zeros : run.2 ≤ zerosAhead (addr.groups.toList.drop run.1)) :
    addr.groups.toList = addr.groups.toList.take run.1 ++ List.replicate run.2 0
      ++ addr.groups.toList.drop (run.1 + run.2) := by
  rw [← take_of_le_zerosAhead zeros, ← List.drop_drop, List.append_assoc, List.take_append_drop, List.take_append_drop]

theorem shiftLeft_mod_or {n high low : Nat} (fits : high < 2 ^ n) (small : low < 2 ^ n) :
    high <<< n % 2 ^ (n + n) ||| low = 2 ^ n * high + low := by
  have narrow : 2 ^ n * high < 2 ^ (n + n) := by
    rw [Nat.pow_add]
    exact Nat.mul_lt_mul_of_pos_left fits (Nat.two_pow_pos n)
  rw [Nat.shiftLeft_eq, Nat.mul_comm, Nat.mod_eq_of_lt narrow, Nat.two_pow_add_eq_or_of_lt small]

theorem toNat_octetPair (high low : UInt8) :
    (high.toUInt16 <<< 8 ||| low.toUInt16).toNat = 256 * high.toNat + low.toNat := by
  rw [UInt16.toNat_or, UInt16.toNat_shiftLeft, UInt8.toNat_toUInt16, UInt8.toNat_toUInt16]
  exact shiftLeft_mod_or high.toNat_lt low.toNat_lt

theorem toNat_groupPair (high low : UInt16) :
    (high.toUInt32 <<< 16 ||| low.toUInt32).toNat = 65536 * high.toNat + low.toNat := by
  rw [UInt32.toNat_or, UInt32.toNat_shiftLeft, UInt16.toNat_toUInt32, UInt16.toNat_toUInt32]
  exact shiftLeft_mod_or high.toNat_lt low.toNat_lt

/-- The quad that two groups carry gives them back. -/
theorem joinOctets_carried (high low : UInt16) : joinOctets (carried high low).octets = [high, low] := by
  have value := toNat_groupPair high low
  have boundHigh := high.toNat_lt
  have boundLow := low.toNat_lt
  simp only [carried, Ipv4.octets, Ipv4.ofWord, joinOctets, List.cons.injEq, and_true, ← UInt16.toNat_inj,
    toNat_octetPair, UInt32.toNat_toUInt8, UInt32.toNat_shiftRight, value, UInt32.reduceToNat, Nat.reduceMod,
    Nat.shiftRight_eq_div_pow]
  constructor <;> omega

theorem sideFields_mapped (quad : Ipv4) :
    sideFields ("ffff:".toList ++ quad.chars) = ["ffff".toList, quad.chars] := by
  have start : "ffff:".toList = "ffff".toList ++ [':'] := rfl
  have whole : "ffff:".toList ++ quad.chars = List.intercalate [':'] ["ffff".toList, quad.chars] := by
    rw [start, List.intercalate_cons_cons, List.intercalate_singleton]
  have given : List.intercalate [':'] ["ffff".toList, quad.chars] ≠ [] := by
    rw [← whole, start]
    simp
  have free : ∀ field ∈ ["ffff".toList, quad.chars], ':' ∉ field :=
    List.forall_mem_cons.mpr ⟨by decide, List.forall_mem_singleton.mpr quad.colon_not_mem_chars⟩
  rw [sideFields, whole, if_neg given, fields_intercalate (List.cons_ne_nil _ _) free]

theorem tailGroups?_mapped (high low : UInt16) :
    tailGroups? ["ffff".toList, (carried high low).chars] = some [0xFFFF, high, low] := by
  have ones : group? "ffff".toList = some 0xFFFF := by decide
  have quad := (Ipv4.parse_eq_ok_iff _ (carried high low)).mpr rfl
  rw [Ipv4.parse, Ipv4.toText, String.toList_ofList] at quad
  simp only [tailGroups?, ones, quad, joinOctets_carried]
  rfl

/-- The gap stands for the groups that are missing. -/
theorem ofChars?_of_gap {text front back : List Char} {head tail : List UInt16}
    (gap : splitGap? text = some (front, back)) (before : (sideFields front).mapM group? = some head)
    (behind : tailGroups? (sideFields back) = some tail) (few : head.length + tail.length ≤ 7) :
    ofChars? text = ofGroups? (head ++ List.replicate (8 - head.length - tail.length) 0 ++ tail) := by
  simp only [ofChars?, gap, before, behind]
  exact if_pos few

/-- Every text form of an address is read as that address. -/
theorem Written.reads {addr : Ipv6} {text : List Char} (written : addr.Written text) : ofChars? text = some addr := by
  cases written with
  | mapped high low carries =>
    have gap : splitGap? ("::ffff:".toList ++ (carried high low).chars)
        = some ([], "ffff:".toList ++ (carried high low).chars) := rfl
    have before : (sideFields []).mapM group? = some [] := rfl
    have behind : tailGroups? (sideFields ("ffff:".toList ++ (carried high low).chars))
        = some [0xFFFF, high, low] := by
      rw [sideFields_mapped, tailGroups?_mapped]
    rw [ofChars?_of_gap gap before behind (show 0 + 3 ≤ 7 by decide), ← ofGroups?_toList addr, carries]
    rfl
  | compressed run plain longest several =>
    -- Only that the run is of zeros matters here. A shorter one would be read all the same.
    have reach := zerosAhead_le (addr.groups.toList.drop run.1)
    have zeros := longest.zeros
    have gap : splitGap? (groupChars (addr.groups.toList.take run.1) ++ [':', ':']
        ++ groupChars (addr.groups.toList.drop (run.1 + run.2)))
        = some (groupChars (addr.groups.toList.take run.1), groupChars (addr.groups.toList.drop (run.1 + run.2))) := by
      rw [List.append_assoc, splitGap?_groupChars]
      simp [splitGap?]
    have before := mapM_group? (addr.groups.toList.take run.1)
    have behind := tailGroups?_digits (addr.groups.toList.drop (run.1 + run.2))
    rw [← sideFields_groupChars] at before behind
    rw [List.length_drop, Vector.length_toList] at reach
    have front : (addr.groups.toList.take run.1).length = run.1 := by
      rw [List.length_take, Vector.length_toList]
      omega
    have back : (addr.groups.toList.drop (run.1 + run.2)).length = 8 - (run.1 + run.2) := by
      rw [List.length_drop, Vector.length_toList]
    have between : 8 - run.1 - (8 - (run.1 + run.2)) = run.2 := by omega
    rw [ofChars?_of_gap gap before behind (by omega), front, back, between, ← toList_eq_of_zeros zeros,
      ofGroups?_toList]
  | whole =>
    have gapless : splitGap? (groupChars addr.groups.toList) = none := by
      have none := splitGap?_groupChars addr.groups.toList []
      rwa [List.append_nil] at none
    have given : addr.groups.toList ≠ [] := by
      rw [← List.length_pos_iff, Vector.length_toList]
      decide
    simp only [ofChars?, gapless, fields_groupChars given, tailGroups?_digits]
    exact ofGroups?_toList addr

theorem parse?_toText (addr : Ipv6) : parse? addr.toText = some addr := by
  rw [parse?, toText, String.toList_ofList]
  exact addr.written_chars.reads

end Ipv6

end VirtualLink
