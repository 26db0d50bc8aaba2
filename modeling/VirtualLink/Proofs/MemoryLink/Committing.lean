import VirtualLink.Proofs.MemoryLink.Granting

namespace VirtualLink

namespace Plan

theorem map_request_trail (notes : List Event) :
    ∀ requests : List Request, (group.trail notes requests).map Step.request = requests
  | [] => rfl
  | [_] => rfl
  | next :: second :: rest => congrArg (next :: ·) (map_request_trail notes (second :: rest))

theorem map_request_group (undo : Request) (notes : List Event) :
    ∀ requests : List Request, (group undo notes requests).map Step.request = requests
  | [] => rfl
  | [_] => rfl
  | first :: second :: rest => congrArg (first :: ·) (map_request_trail notes (second :: rest))

theorem map_request_steps (plan : Plan) (name : String) (settings : Settings) :
    (plan.steps name settings).map Step.request
      = (plan.previousMac.map fun _ => .setMac plan.mac).toList ++ [.setMtu plan.mtu] ++ ipv4Requests settings
        ++ settings.ipv6.map (.addIpv6 · ipv6PrefixLength) ++ [.setAdmin true] := by
  cases read : plan.previousMac <;>
    simp [steps, macSteps, mtuStep, ipv4Steps, ipv6Steps, read, map_request_group, Function.comp_def]

end Plan

namespace LinkState

variable {settings : Settings}

theorem applyAll_append (state : LinkState) (first second : List Request) :
    state.applyAll (first ++ second) = (state.applyAll first).applyAll second :=
  List.foldl_append

theorem applyAll_addIpv6 (state : LinkState) (addrs : List Ipv6) :
    state.applyAll (addrs.map (.addIpv6 · ipv6PrefixLength)) =
      { state with ipv6 := state.ipv6 ++ addrs.map (·, ipv6PrefixLength) } := by
  induction addrs generalizing state with
  | nil => simp [applyAll]
  | cons addr rest ih =>
    change (state.apply (.addIpv6 addr ipv6PrefixLength)).applyAll _ = _
    rw [ih]
    simp [apply]

theorem applyAll_ipv4Requests (state : LinkState) {addr : Ipv4} (given : settings.ipv4 = some addr) :
    state.applyAll (Plan.ipv4Requests settings) =
      { state with
        ipv4 := some addr
        netmask := settings.netmask.or state.netmask
        broadcast := settings.broadcast.or state.broadcast } := by
  simp only [Plan.ipv4Requests, given]
  cases settings.netmask <;> cases settings.broadcast <;> rfl

/-- The state with what a bring-up by this plan gives a link beside what it had before. -/
def configured (state : LinkState) (plan : Plan) (settings : Settings) : LinkState :=
  { state with
    mac := if plan.previousMac.isSome then plan.mac else state.mac
    mtu := plan.mtu
    ipv4 := settings.ipv4.or state.ipv4
    netmask := settings.netmask.or state.netmask
    broadcast := settings.broadcast.or state.broadcast
    ipv6 := state.ipv6 ++ settings.ipv6.map (·, ipv6PrefixLength)
    adminUp := true }

theorem applyAll_steps_eq_configured (plan : Plan) (name : String) (state : LinkState)
    (companions : settings.ipv4 = none → settings.netmask = none ∧ settings.broadcast = none) :
    state.applyAll ((plan.steps name settings).map Step.request) = state.configured plan settings := by
  have named : state.applyAll ((plan.previousMac.map fun _ => .setMac plan.mac).toList ++ [.setMtu plan.mtu]) =
      { state with mac := if plan.previousMac.isSome then plan.mac else state.mac, mtu := plan.mtu } := by
    cases plan.previousMac <;> rfl
  rw [Plan.map_request_steps, applyAll_append, applyAll_append, applyAll_append, named, applyAll_addIpv6]
  cases given : settings.ipv4 with
  | none =>
    obtain ⟨netmask, broadcast⟩ := companions given
    simp [Plan.ipv4Requests, given, applyAll, apply, configured, netmask, broadcast]
  | some addr =>
    rw [applyAll_ipv4Requests _ given]
    simp [applyAll, apply, configured, given]

/-- What a bring-up that is granted everything makes of a link without addresses. -/
theorem applyAll_steps (plan : Plan) (name : String) {state : LinkState}
    (bare : state.ipv4 = none ∧ state.netmask = none ∧ state.broadcast = none ∧ state.ipv6 = [])
    (companions : settings.ipv4 = none → settings.netmask = none ∧ settings.broadcast = none) :
    state.applyAll ((plan.steps name settings).map Step.request) =
      { state with
        mac := if plan.previousMac.isSome then plan.mac else state.mac
        mtu := plan.mtu
        ipv4 := settings.ipv4
        netmask := settings.netmask
        broadcast := settings.broadcast
        ipv6 := settings.ipv6.map (·, ipv6PrefixLength)
        adminUp := true } := by
  obtain ⟨noIpv4, noNetmask, noBroadcast, noIpv6⟩ := bare
  rw [applyAll_steps_eq_configured plan name state companions]
  simp [configured, noIpv4, noNetmask, noBroadcast, noIpv6]

end LinkState

/-- What comes after a check is reached only if the check is passed. -/
theorem Checked.bind_eq_ok_iff {α : Type} {first : Checked Unit} {next : Checked α} {a : α} :
    (first >>= fun _ => next) = .ok a ↔ first = .ok () ∧ next = .ok a := by
  cases first with
  | error v => simp [bind, Except.bind]
  | ok => simp [bind, Except.bind]

namespace Settings

variable {settings : Settings}

theorem checkMtu_eq_ok_iff {mtu : UInt32} :
    (discard (checkMtu mtu) : Checked Unit) = .ok () ↔ minMtu ≤ mtu ∧ mtu ≤ maxMtu := by
  simp only [checkMtu, ← UInt32.not_lt]
  split
  · rename_i small
    exact iff_of_false nofun fun fits => fits.1 small
  · rename_i large
    split
    · rename_i huge
      exact iff_of_false nofun fun fits => fits.2 huge
    · rename_i fits
      exact iff_of_true rfl ⟨large, fits⟩

theorem check_eq_ok_iff :
    settings.check = .ok () ↔
      settings.mac.forM checkMac = .ok () ∧ settings.netmask.forM checkNetmask = .ok ()
        ∧ checkCompanion .netmask settings.ipv4 settings.netmask = .ok ()
        ∧ checkCompanion .broadcast settings.ipv4 settings.broadcast = .ok ()
        ∧ checkDistinct [] settings.ipv6 = .ok () ∧ minMtu ≤ settings.mtu ∧ settings.mtu ≤ maxMtu := by
  rw [← checkMtu_eq_ok_iff]
  simp only [← Checked.bind_eq_ok_iff]
  rfl

/-- Settings that pass their check have a netmask or a broadcast address only next to an address. -/
theorem companions_of_check (valid : settings.check = .ok ()) (without : settings.ipv4 = none) :
    settings.netmask = none ∧ settings.broadcast = none := by
  obtain ⟨_, _, netmask, broadcast, _⟩ := check_eq_ok_iff.mp valid
  have alone {field : Field} {companion : Option Ipv4}
      (passed : checkCompanion field settings.ipv4 companion = .ok ()) : companion = none := by
    cases companion with
    | none => rfl
    | some addr => simp [checkCompanion, without] at passed
  exact ⟨alone netmask, alone broadcast⟩

end Settings

end VirtualLink
