import VirtualLink.Proofs.Written

namespace VirtualLink

open Call Driven

variable {α β σ : Type}

/-- The value is one that what was given denotes, or the one from before if nothing was given. -/
inductive Taken (denotes : α → β → Prop) (before : β) : Option α → β → Prop
  | given {a : α} {b : β} (denoted : denotes a b) : Taken denotes before (some a) b
  | kept : Taken denotes before none before

theorem Taken.eq_of_none {denotes : α → β → Prop} {before after : β} (taken : Taken denotes before none after) :
    after = before := by
  cases taken
  rfl

theorem Taken.of_mapM {read : α → Checked β} {denotes : α → β → Prop} (each : ∀ a b, read a = .ok b → denotes a b)
    {given : Option α} {taken : Option β} (reads : given.mapM read = .ok taken) (before : Option β) :
    Taken (fun a value => ∃ b ∈ value, denotes a b) before given (taken.or before) := by
  cases given with
  | none =>
    cases reads
    exact .kept
  | some a =>
    obtain ⟨b, known, rfl⟩ := Checked.mapM_some_eq_ok.mp reads
    exact .given ⟨b, rfl, each a b known⟩

namespace Entry

/-- The IPv6 list, if the entry has any address to give. -/
def ipv6? (entry : Entry) : Option (List String) :=
  if entry.ipv6 = [] then none else some entry.ipv6

/-- What the entry gives has taken the place of what was there before, and the rest has not changed. -/
structure TakenOver (entry : Entry) (before after : Settings) : Prop where
  mac : Taken (fun text value => ∃ mac ∈ value, mac.SpelledBy text) before.mac entry.mac after.mac
  ipv4 : Taken (fun text value => ∃ addr ∈ value, addr.toText = text) before.ipv4 entry.ipv4 after.ipv4
  netmask : Taken (fun text value => ∃ mask ∈ value, mask.toText = text) before.netmask entry.netmask after.netmask
  broadcast :
    Taken (fun text value => ∃ addr ∈ value, addr.toText = text) before.broadcast entry.broadcast after.broadcast
  ipv6 : Taken (fun texts addrs => texts.map Ipv6.parse? = addrs.map some) before.ipv6 entry.ipv6? after.ipv6
  mtu : Taken (fun size mtu => mtu = size) before.mtu entry.mtu after.mtu

variable {entry : Entry} {before after : Settings}

/-- Reading an entry replaces the list of addresses, be it by nothing. -/
theorem ipv6_of_read (reads : entry.read before = .ok after) : readIpv6List entry.ipv6 = .ok after.ipv6 := by
  simp only [read, Checked.bind_eq_ok_iff_exists] at reads
  obtain ⟨_, -, _, -, _, -, _, -, ipv6, readsIpv6, _, -, same⟩ := reads
  exact Except.ok.inj same ▸ readsIpv6

/-- What is read is taken over from any entry that has something for the list of addresses, or meets an empty one. -/
theorem takenOver_of_read (reads : entry.read before = .ok after) {ipv6 : List Ipv6}
    (replaced : entry.ipv6 = [] → ipv6 = []) : entry.TakenOver { before with ipv6 } after := by
  have readsIpv6 := ipv6_of_read reads
  simp only [read, Checked.bind_eq_ok_iff_exists] at reads
  obtain ⟨mac, readsMac, ipv4, readsIpv4, netmask, readsNetmask, broadcast, readsBroadcast, _, -, mtu, readsMtu,
    same⟩ := reads
  obtain rfl := Except.ok.inj same
  constructor
  case mac => exact .of_mapM (fun _ _ => spelledBy_of_readMac) readsMac before.mac
  case ipv4 => exact .of_mapM (fun _ _ => toText_of_readQuad) readsIpv4 before.ipv4
  case netmask => exact .of_mapM (fun _ _ => toText_of_readNetmask) readsNetmask before.netmask
  case broadcast => exact .of_mapM (fun _ _ => toText_of_readQuad) readsBroadcast before.broadcast
  case ipv6 =>
    rw [ipv6?]
    by_cases empty : entry.ipv6 = []
    · obtain rfl := replaced empty
      rw [empty] at readsIpv6
      rw [if_pos empty, ← Except.ok.inj readsIpv6]
      exact .kept
    · obtain ⟨appended, whole, denoted⟩ := parse?_of_appendIpv6List readsIpv6
      rw [if_neg empty, whole]
      exact .given denoted
  case mtu =>
    cases given : entry.mtu with
    | none =>
      rw [given] at readsMtu
      cases readsMtu
      exact .kept
    | some asked =>
      rw [given] at readsMtu
      obtain ⟨taken, checked, rfl⟩ := Checked.mapM_some_eq_ok.mp readsMtu
      exact .given (checkMtu_ok checked).1

theorem takenOver_iff_of_read (reads : entry.read before = .ok after) :
    entry.TakenOver before after ↔ (entry.ipv6 = [] → before.ipv6 = []) := by
  refine ⟨fun taken empty => ?_, fun replaced => takenOver_of_read reads replaced⟩
  have readsIpv6 := ipv6_of_read reads
  rw [empty] at readsIpv6
  have same := taken.ipv6
  rw [ipv6?, if_pos empty] at same
  exact same.eq_of_none ▸ (Except.ok.inj readsIpv6).symm

end Entry

/-- Configuring takes over what the entry gives, and changes nothing else, unless the entry has no address for an
interface with addresses: those are lost. -/
theorem configure_takes_over_iff (driven : Driven σ) (entry : Entry) (down : driven.iface.isUp = false) :
    let reply := (onInterface (Interface.configure entry) : Call Error (Driven σ) Unit) driven
    let before := driven.iface.settings
    let after := reply.state.iface.settings
    reply.result = .ok () →
      (entry.TakenOver before after ↔ (entry.ipv6 = [] → before.ipv6 = []))
        ∧ entry.TakenOver { before with ipv6 := [] } after
        ∧ reply.state = { driven with iface :=
          { driven.iface with settings := after, mtuChosen := driven.iface.mtuChosen || entry.mtu.isSome } } := by
  intro reply before after granted
  have configured : (onInterface (Interface.configure entry) : Call Error (Driven σ) Unit).Ensures
      (fun _ after => ∃ settings, entry.read before = .ok settings ∧ after = { driven with iface :=
        { driven.iface with settings, mtuChosen := driven.iface.mtuChosen || entry.mtu.isSome } })
      (fun _ _ => True) driven := by
    rw [ensures_onInterface]
    have settles : driven.iface.Settles _ _ before _ := Interface.configure_settles down entry
    refine settles.mono (fun _ _ settled => ?_) fun _ _ _ => trivial
    obtain ⟨settings, reads, rfl⟩ := settled
    exact ⟨settings, reads, rfl⟩
  obtain ⟨settings, reads, left⟩ := configured.of_ok granted
  have settled : after = settings := congrArg (fun driven => driven.iface.settings) left
  refine ⟨settled ▸ Entry.takenOver_iff_of_read reads, settled ▸ Entry.takenOver_of_read reads fun _ => rfl, ?_⟩
  exact settled ▸ left

/-- An interface with an address. -/
def MemoryLink.listed : Driven MemoryLink :=
  Action.run MemoryLink.backend [.set (.ipv6 ["fe80::1"])] ⟨Interface.new "tap0" 0 .tap 0 defaultCapacity, {}⟩

/-- The address makes room for the one of the entry. -/
theorem configure_takes_over_iff_listed :
    let entry : Entry := { ipv6 := ["::1"], mtu := some 1400 }
    let reply := (onInterface (Interface.configure entry) : Call Error (Driven MemoryLink) Unit) MemoryLink.listed
    reply.result = .ok () ∧ entry.TakenOver MemoryLink.listed.iface.settings reply.state.iface.settings := by
  intro entry reply
  have down : MemoryLink.listed.iface.isUp = false := by decide +kernel
  have granted : reply.result = .ok () := by
    have answered : reply.result.isOk = true := by decide +kernel
    cases result : reply.result with
    | ok => rfl
    | error error => simp [result, Except.isOk, Except.toBool] at answered
  obtain ⟨replaced, -⟩ := configure_takes_over_iff MemoryLink.listed entry down granted
  exact ⟨granted, replaced.mpr fun none => by cases none⟩

/-- An entry that gives only a size takes the address away. -/
theorem configure_loses_ipv6 :
    let entry : Entry := { mtu := some 1400 }
    let reply := (onInterface (Interface.configure entry) : Call Error (Driven MemoryLink) Unit) MemoryLink.listed
    reply.result.isOk = true ∧ MemoryLink.listed.iface.settings.ipv6.map Ipv6.toText = ["fe80::1"]
      ∧ reply.state.iface.settings.ipv6 = []
      ∧ ¬ entry.TakenOver MemoryLink.listed.iface.settings reply.state.iface.settings := by
  intro entry reply
  have before : MemoryLink.listed.iface.settings.ipv6.map Ipv6.toText = ["fe80::1"] := by decide +kernel
  have lost : reply.state.iface.settings.ipv6 = [] := by decide +kernel
  refine ⟨by decide +kernel, before, lost, fun taken => ?_⟩
  have same : reply.state.iface.settings.ipv6 = MemoryLink.listed.iface.settings.ipv6 := taken.ipv6.eq_of_none
  rw [← same, lost] at before
  cases before

end VirtualLink
