import VirtualLink.Proofs.Contiguity
import VirtualLink.Proofs.MemoryLink.Committing
import VirtualLink.Proofs.Neighbours
import VirtualLink.Proofs.Reading

namespace VirtualLink

/-- The address may be given to a link. -/
def Mac.Assignable (mac : Mac) : Prop :=
  mac ≠ .zero ∧ mac.isUnicast = true

theorem checkMac_eq_ok_iff_assignable {mac : Mac} : checkMac mac = .ok () ↔ mac.Assignable := by
  rw [checkMac_eq_ok_iff, Mac.Assignable, Mac.isZero, beq_eq_false_iff_ne]

theorem checkNetmask_eq_ok_iff {mask : Ipv4} : checkNetmask mask = .ok () ↔ ∃ ones, mask.OnesInFront ones := by
  rw [← Ipv4.isContiguous_iff, checkNetmask]
  cases mask.isContiguous <;> simp

theorem forM_eq_ok_iff {α : Type} {check : α → Checked Unit} {given : Option α} :
    given.forM check = .ok () ↔ ∀ a, given = some a → check a = .ok () := by
  cases given with
  | none => exact iff_of_true rfl nofun
  | some a => exact ⟨fun passed _ same => Option.some.inj same ▸ passed, fun each => each a rfl⟩

theorem checkDistinct_eq_ok_iff {known addrs : List Ipv6} (distinct : known.Nodup) :
    checkDistinct known addrs = .ok () ↔ (known ++ addrs).Nodup := by
  refine ⟨fun passed => ?_, checkDistinct_eq_ok⟩
  induction addrs generalizing known with
  | nil => rwa [List.append_nil]
  | cons addr rest ih =>
    rw [checkDistinct] at passed
    split at passed
    · cases passed
    · rename_i fresh
      rw [List.append_cons]
      exact ih (nodup_append_singleton distinct fresh) passed

namespace Settings

variable {settings : Settings}

/-- Every field but the MTU has a value that is fit for it. -/
structure Fit (settings : Settings) : Prop where
  mac : ∀ mac, settings.mac = some mac → mac.Assignable
  netmask : ∀ mask, settings.netmask = some mask → ∃ ones, mask.OnesInFront ones
  ipv6 : settings.ipv6.Nodup

/-- The MTU is in range. -/
def Sized (settings : Settings) : Prop :=
  68 ≤ settings.mtu.toNat ∧ settings.mtu.toNat ≤ 65536

/-- A netmask or a broadcast address without an address. -/
def Orphaned (settings : Settings) : Prop :=
  (settings.netmask ≠ none ∨ settings.broadcast ≠ none) ∧ settings.ipv4 = none

theorem fit_iff :
    settings.Fit ↔ settings.mac.forM checkMac = .ok () ∧ settings.netmask.forM checkNetmask = .ok ()
      ∧ checkDistinct [] settings.ipv6 = .ok () := by
  rw [forM_eq_ok_iff, forM_eq_ok_iff, checkDistinct_eq_ok_iff List.nodup_nil, List.nil_append]
  simp only [checkMac_eq_ok_iff_assignable, checkNetmask_eq_ok_iff]
  exact ⟨fun fit => ⟨fit.mac, fit.netmask, fit.ipv6⟩, fun ⟨mac, netmask, ipv6⟩ => ⟨mac, netmask, ipv6⟩⟩

theorem sized_iff : settings.Sized ↔ minMtu ≤ settings.mtu ∧ settings.mtu ≤ maxMtu :=
  Iff.rfl

theorem not_orphaned_iff :
    ¬ settings.Orphaned ↔ checkCompanion .netmask settings.ipv4 settings.netmask = .ok ()
      ∧ checkCompanion .broadcast settings.ipv4 settings.broadcast = .ok () := by
  rw [checkCompanion_eq_ok_iff, checkCompanion_eq_ok_iff, Orphaned]
  grind

/-- The check lets settings through of which each field is fit, and no netmask and no broadcast address stands
alone. -/
theorem check_eq_ok_iff_fit : settings.check = .ok () ↔ settings.Fit ∧ settings.Sized ∧ ¬ settings.Orphaned := by
  rw [check_eq_ok_iff, fit_iff, sized_iff, not_orphaned_iff]
  constructor
  · rintro ⟨mac, netmask, ipv4Netmask, ipv4Broadcast, ipv6, mtu⟩
    exact ⟨⟨mac, netmask, ipv6⟩, mtu, ipv4Netmask, ipv4Broadcast⟩
  · rintro ⟨⟨mac, netmask, ipv6⟩, mtu, ipv4Netmask, ipv4Broadcast⟩
    exact ⟨mac, netmask, ipv4Netmask, ipv4Broadcast, ipv6, mtu⟩

theorem rule_of_checkCompanion {field : Field} {ipv4 companion : Option Ipv4} {v : Violation}
    (refused : checkCompanion field ipv4 companion = .error v) : v.rule = .requiresIpv4 := by
  cases companion with
  | none => cases refused
  | some addr =>
    cases ipv4 with
    | none => exact Except.error.inj refused ▸ rfl
    | some _ => cases refused

/-- Settings of which each field is fit only break the rule between fields. -/
theorem Fit.rule_of_check (fit : settings.Fit) (sized : settings.Sized) {v : Violation}
    (refused : settings.check = .error v) : v.rule = .requiresIpv4 := by
  obtain ⟨mac, netmask, ipv6⟩ := fit_iff.mp fit
  have mtu := checkMtu_eq_ok_iff.mpr (sized_iff.mp sized)
  rw [check, mac, netmask, ipv6, mtu] at refused
  cases first : checkCompanion .netmask settings.ipv4 settings.netmask with
  | error broken =>
    rw [first] at refused
    exact Except.error.inj refused ▸ rule_of_checkCompanion first
  | ok =>
    cases second : checkCompanion .broadcast settings.ipv4 settings.broadcast with
    | error broken =>
      rw [first, second] at refused
      exact Except.error.inj refused ▸ rule_of_checkCompanion second
    | ok =>
      rw [first, second] at refused
      cases refused

end Settings

end VirtualLink
