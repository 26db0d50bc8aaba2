import VirtualLink.Kernel
import VirtualLink.System.Machine
import VirtualLink.Proofs.Neighbours
import VirtualLink.Proofs.Printing

namespace VirtualLink

variable {name : String}

/-- What a link may be called: one to fifteen bytes, and nothing that a path, an alias or a pattern takes for something
else. -/
structure Nameable (name : String) : Prop where
  given : 1 ≤ (utf8 name).length
  short : (utf8 name).length ≤ 15
  here : name ≠ "."
  above : name ≠ ".."
  plain : ∀ c ∈ name.toList, isBlank c = false ∧ isControl c = false ∧ c ≠ '/' ∧ c ≠ ':' ∧ c ≠ '%'

theorem utf8_eq_nil_iff : utf8 name = [] ↔ name = "" := by
  rw [utf8, List.flatMap_eq_nil_iff, ← String.toList_eq_nil_iff]
  constructor
  · intro none
    refine List.eq_nil_iff_forall_not_mem.mpr fun c member => ?_
    exact String.utf8EncodeChar_ne_nil (none c member)
  · intro none c member
    rw [none] at member
    cases member

theorem isForbiddenInName_eq_false_iff {c : Char} :
    isForbiddenInName c = false ↔ isBlank c = false ∧ isControl c = false ∧ c ≠ '/' ∧ c ≠ ':' ∧ c ≠ '%' := by
  simp only [isForbiddenInName, Bool.or_eq_false_iff, beq_eq_false_iff_ne, and_assoc]

theorem checkName_eq_ok_iff : checkName name = .ok () ↔ Nameable name := by
  unfold checkName
  split
  · rename_i empty
    refine iff_of_false nofun fun nameable => ?_
    have given := nameable.given
    rw [utf8_eq_nil_iff.mpr (String.isEmpty_iff.mp empty)] at given
    exact absurd given (by decide)
  · rename_i given
    rw [String.isEmpty_iff, ← utf8_eq_nil_iff] at given
    split
    · rename_i long
      exact iff_of_false nofun fun nameable => Nat.not_le.mpr long nameable.short
    · rename_i short
      split
      · rename_i dots
        exact iff_of_false nofun fun nameable => dots.elim nameable.here nameable.above
      · rename_i usual
        obtain ⟨here, above⟩ := not_or.mp usual
        split
        · rename_i c found
          refine iff_of_false nofun fun nameable => ?_
          have plain := isForbiddenInName_eq_false_iff.mpr (nameable.plain c (List.mem_of_find?_eq_some found))
          rw [List.find?_some found] at plain
          cases plain
        · rename_i none
          have within : (utf8 name).length ≤ 15 := Nat.le_of_lt_succ (Nat.not_le.mp short)
          refine iff_of_true rfl ⟨List.length_pos_iff.mpr given, within, here, above, fun c member => ?_⟩
          exact isForbiddenInName_eq_false_iff.mp (Bool.eq_false_iff.mpr (List.find?_eq_none.mp none c member))

/-! In UTF-8 a byte below 128 stands for itself. -/

theorem toNat_of_mem_utf8EncodeChar {c : Char} {byte : UInt8} (member : byte ∈ String.utf8EncodeChar c)
    (narrow : byte.toNat < 128) : c.toNat = byte.toNat := by
  have wide {n : Nat} (high : 128 ≤ n) (fits : n < 256) : byte ≠ UInt8.ofNat n := by
    rintro rfl
    rw [UInt8.toNat_ofNat_of_lt' fits] at narrow
    omega
  change byte ∈ if c.toNat ≤ 127 then _ else _ at member
  split at member
  · rename_i single
    obtain rfl := List.mem_singleton.mp member
    exact (UInt8.toNat_ofNat_of_lt' (Nat.lt_of_le_of_lt single (by decide))).symm
  · -- every byte of a longer encoding has its topmost bit set
    exfalso
    split at member
    · simp only [List.mem_cons, List.not_mem_nil, or_false] at member
      rcases member with same | same <;> exact wide (by omega) (by omega) same
    · split at member
      · simp only [List.mem_cons, List.not_mem_nil, or_false] at member
        rcases member with same | same | same <;> exact wide (by omega) (by omega) same
      · simp only [List.mem_cons, List.not_mem_nil, or_false] at member
        rcases member with same | same | same | same <;> exact wide (by omega) (by omega) same

theorem mem_toList_of_mem_utf8 {c : Char} {byte : UInt8} (same : byte.toNat = c.toNat) (narrow : byte.toNat < 128)
    (member : byte ∈ utf8 name) : c ∈ name.toList := by
  obtain ⟨d, among, inside⟩ := List.mem_flatMap.mp member
  have value : d.toNat = c.toNat := (toNat_of_mem_utf8EncodeChar inside narrow).trans same
  rwa [← Char.toNat_inj.mp value]

theorem Nameable.ne_empty (nameable : Nameable name) : name ≠ "" := by
  rw [Ne, ← utf8_eq_nil_iff, ← List.length_eq_zero_iff]
  exact Nat.ne_of_gt nameable.given

theorem Nameable.zero_not_mem (nameable : Nameable name) : 0 ∉ utf8 name := by
  intro member
  have zero : '\x00' ∈ name.toList := mem_toList_of_mem_utf8 rfl (by decide) member
  exact absurd (nameable.plain _ zero).2.1 (by decide)

theorem Nameable.slash_not_mem (nameable : Nameable name) : '/' ∉ name.toList :=
  fun member => (nameable.plain _ member).2.2.1 rfl

/-! The name in a request. -/

theorem Nameable.nameField_eq (nameable : Nameable name) :
    nameField name = utf8 name ++ List.replicate (nameFieldSize - (utf8 name).length) 0 := by
  have whole : (utf8 name).take (nameFieldSize - 1) = utf8 name := List.take_of_length_le nameable.short
  rw [nameField, whole]

theorem Nameable.fieldName_nameField (nameable : Nameable name) : fieldName (nameField name) = utf8 name := by
  have nonzero : ∀ byte ∈ utf8 name, decide (byte ≠ 0) = true := by
    intro byte member
    exact decide_eq_true fun zero => nameable.zero_not_mem (zero ▸ member)
  rw [nameable.nameField_eq, fieldName, List.takeWhile_append_of_pos nonzero, List.takeWhile_replicate]
  exact List.append_nil _

theorem nameField_injOn : Set.InjOn nameField { name | Nameable name } := by
  intro name nameable other again same
  have read := congrArg fieldName same
  rw [nameable.fieldName_nameField, again.fieldName_nameField] at read
  exact utf8_injective read

/-! The name in a path. -/

namespace Kernel

/-- Goes one part of a path further: an empty part and a dot stay in place, two dots lead to the directory above. -/
def further (place : List String) (part : List Char) : List String :=
  if part = [] ∨ part = ['.'] then place
  else if part = ['.', '.'] then place.dropLast
  else place ++ [String.ofList part]

/-- Where a path leads from the root, by the names on the way. -/
def placeOf (path : String) : List String :=
  (fields '/' path.toList).foldl further []

example : placeOf "/sys/class/net/.." = ["sys", "class"] := by decide

theorem linkPath_eq (relative : '/' ∉ name.toList) : linkPath name = interfacesPath ++ "/" ++ name := by
  have plain : name.startsWith "/" = false := by
    refine String.startsWith_string_eq_false_iff.mpr fun front => relative (front.subset ?_)
    exact List.mem_singleton_self '/'
  have unclosed : interfacesPath.endsWith "/" = false := by decide +kernel
  rw [linkPath, joinPath, plain, unclosed]
  rfl

theorem fields_linkPath (relative : '/' ∉ name.toList) :
    fields '/' (linkPath name).toList = fields '/' interfacesPath.toList ++ [name.toList] := by
  have path : (interfacesPath ++ "/" ++ name).toList = interfacesPath.toList ++ '/' :: name.toList := by simp
  rw [linkPath_eq relative, path, fields_append, fields_of_not_mem relative]

/-- A name leads from the directory of all links to a place right below. -/
theorem placeOf_linkPath (nameable : Nameable name) : placeOf (linkPath name) = placeOf interfacesPath ++ [name] := by
  have given : name.toList ≠ [] := fun none => nameable.ne_empty (String.toList_eq_nil_iff.mp none)
  have here : name.toList ≠ ['.'] := fun same => nameable.here (String.toList_inj.mp same)
  have above : name.toList ≠ ['.', '.'] := fun same => nameable.above (String.toList_inj.mp same)
  rw [placeOf, fields_linkPath nameable.slash_not_mem, List.foldl_append]
  change further (placeOf interfacesPath) name.toList = _
  rw [further, if_neg (not_or.mpr ⟨given, here⟩), if_neg above, String.ofList_toList]

/-- On a machine the path of a name leads to the directory of the link that a request with the name is about. -/
theorem place?_linkPath (nameable : Nameable name) (machine : Machine) :
    machine.place? (linkPath name) = (machine.nic? (fieldName (nameField name))).map
      fun _ => .directory (Machine.interfacesDirectory ++ [name]) := by
  have directory : fields '/' interfacesPath.toList = [[], "sys".toList, "class".toList, "net".toList] := by decide
  rw [nameable.fieldName_nameField, Machine.place?, fields_linkPath nameable.slash_not_mem, directory]
  simp [Machine.follow, Machine.entry?, Machine.interfacesDirectory, nameable.ne_empty, nameable.here, nameable.above]

theorem hasZeroByte_linkPath (nameable : Nameable name) : hasZeroByte (linkPath name) = false := by
  have directory : (interfacesPath ++ "/").toList.contains '\x00' = false := by decide
  have plain : name.toList.contains '\x00' = false := by
    refine Bool.eq_false_iff.mpr fun zero => ?_
    exact absurd (nameable.plain _ (List.contains_iff_mem.mp zero)).2.1 (by decide)
  rw [linkPath_eq nameable.slash_not_mem, hasZeroByte, String.toList_append, List.contains_append, directory, plain]
  rfl

end Kernel

/-- How a name gets to the system: whole in the field of a request, with a zero behind it and none inside it, and whole
in a path, which leads to a place right below the directory of all links. -/
structure Unaltered (name : String) : Prop where
  field : ∃ zeros, 1 ≤ zeros ∧ (utf8 name).length + zeros = 16 ∧ nameField name = utf8 name ++ List.replicate zeros 0
  zeroless : 0 ∉ utf8 name
  path : Kernel.linkPath name = "/sys/class/net/" ++ name ∧ Kernel.hasZeroByte (Kernel.linkPath name) = false
  place : Kernel.placeOf (Kernel.linkPath name) = Kernel.placeOf "/sys/class/net" ++ [name]

theorem Nameable.unaltered (nameable : Nameable name) : Unaltered name where
  field := by
    have short := nameable.short
    have size : nameFieldSize = 16 := rfl
    exact ⟨nameFieldSize - (utf8 name).length, by omega, by omega, nameable.nameField_eq⟩
  zeroless := nameable.zero_not_mem
  path := ⟨Kernel.linkPath_eq nameable.slash_not_mem, Kernel.hasZeroByte_linkPath nameable⟩
  place := Kernel.placeOf_linkPath nameable

/-- A name is accepted if and only if a link may be called so. An accepted name gets to the system unaltered, and no
other accepted name is the same in a request. -/
theorem names_go_unaltered :
    (∀ name, checkName name = .ok () ↔ Nameable name)
      ∧ (∀ name, checkName name = .ok () → Unaltered name)
      ∧ Set.InjOn nameField { name | checkName name = .ok () } := by
  refine ⟨fun name => checkName_eq_ok_iff, fun name passes => (checkName_eq_ok_iff.mp passes).unaltered, ?_⟩
  simp only [checkName_eq_ok_iff]
  exact nameField_injOn

/-- Five characters that take fifteen bytes, as many as a name may have, and a name that differs in the last of them. -/
theorem names_go_unaltered_wide :
    checkName "日本語日本" = .ok () ∧ Unaltered "日本語日本"
      ∧ nameField "日本語日本" ≠ nameField "日本語日木" := by
  obtain ⟨-, unaltered, distinct⟩ := names_go_unaltered
  have passes : checkName "日本語日本" = .ok () := by decide
  have again : checkName "日本語日木" = .ok () := by decide
  exact ⟨passes, unaltered _ passes, fun same => absurd (distinct passes again same) (by decide)⟩

end VirtualLink
