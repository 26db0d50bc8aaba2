import VirtualLink.Proofs.Registry
import VirtualLink.Proofs.Returning
import VirtualLink.Proofs.Spelling

namespace VirtualLink

open Call Driven

/-! What was read is what the texts say. -/

theorem spelledBy_of_readMac {text : String} {mac : Mac} (reads : readMac text = .ok mac) : mac.SpelledBy text :=
  (Mac.parse_eq_ok_iff text mac).mp (parse_of_readMac reads).1

theorem toText_of_readQuad {field : Field} {text : String} {addr : Ipv4} (reads : readQuad field text = .ok addr) :
    addr.toText = text := by
  rw [← Ipv4.parse_eq_ok_iff]
  unfold readQuad at reads
  split at reads
  · cases reads
  · rename_i parsed known
    exact Except.ok.inj reads ▸ known

theorem toText_of_readNetmask {text : String} {mask : Ipv4} (reads : readNetmask text = .ok mask) :
    mask.toText = text := by
  obtain ⟨parsed, known, rest⟩ := Checked.bind_eq_ok_iff_exists.mp reads
  obtain ⟨-, same⟩ := Checked.bind_eq_ok_iff.mp rest
  exact Except.ok.inj same ▸ toText_of_readQuad known

theorem parse?_of_readIpv6 {text : String} {addr : Ipv6} (reads : readIpv6 text = .ok addr) :
    Ipv6.parse? text = some addr := by
  unfold readIpv6 at reads
  cases known : Ipv6.parse? text with
  | none => simp [known] at reads
  | some parsed =>
    rw [known] at reads
    exact congrArg some (Except.ok.inj reads)

theorem parse?_of_appendIpv6List {texts : List String} {known addrs : List Ipv6}
    (reads : appendIpv6List known texts = .ok addrs) :
    ∃ appended, addrs = known ++ appended ∧ texts.map Ipv6.parse? = appended.map some := by
  induction texts generalizing known with
  | nil => exact ⟨[], by rw [List.append_nil, Except.ok.inj reads], rfl⟩
  | cons text rest ih =>
    obtain ⟨addr, first, later⟩ := Checked.bind_eq_ok_iff_exists.mp reads
    split at later
    · cases later
    · obtain ⟨appended, rfl, same⟩ := ih later
      refine ⟨addr :: appended, by simp, ?_⟩
      rw [List.map_cons, List.map_cons, parse?_of_readIpv6 first, same]

/-- The texts of what was read from them are the texts that were given, or nothing was given. -/
theorem map_toText_of_mapM {read : String → Checked Ipv4}
    (denotes : ∀ text addr, read text = .ok addr → addr.toText = text)
    {given : Option String} {taken : Option Ipv4} (reads : given.mapM read = .ok taken) :
    taken.map Ipv4.toText = given := by
  cases given with
  | none => cases reads; rfl
  | some text =>
    obtain ⟨addr, known, rfl⟩ := Checked.mapM_some_eq_ok.mp reads
    exact congrArg some (denotes text addr known)

/-- The link is as the entry of an interface of this name and this id is written. -/
structure Entry.OnLink (entry : Entry) (name : String) (id : UInt32) (driven : Driven MemoryLink) : Prop where
  present : driven.backend.state.exists? = true
  adminUp : driven.backend.state.adminUp = true
  kind : driven.backend.state.kind = some entry.kind
  /-- The address is the one that the text spells, or else a generated one. Only a tap gives it to its link. -/
  mac : ∃ mac, driven.iface.settings.mac = some mac
    ∧ (∀ text, entry.mac = some text → mac.SpelledBy text) ∧ (entry.mac = none → mac = Mac.generate id name)
    ∧ driven.backend.state.mac = if entry.kind.isTap then mac else initialMac
  ipv4 : driven.backend.state.ipv4.map Ipv4.toText = entry.ipv4
  netmask : driven.backend.state.netmask.map Ipv4.toText = entry.netmask
  broadcast : driven.backend.state.broadcast.map Ipv4.toText = entry.broadcast
  ipv6 : ∃ addrs : List Ipv6, entry.ipv6.map Ipv6.parse? = addrs.map some
    ∧ driven.backend.state.ipv6 = addrs.map (·, 64)
  mtu : driven.backend.state.mtu = entry.mtu.getD 1500

/-- What a bring-up that is granted everything makes of a link that is created. -/
theorem MemoryLink.broughtUp_created {iface : Interface} {link : MemoryLink} (created : link.attached = false)
    (admits : link.Admits iface) :
    (broughtUp iface link).backend.state.timeless =
      { exists? := true
        kind := some iface.kind
        adminUp := true
        mac := if iface.kind.isTap then chosenMac iface else initialMac
        mtu := iface.settings.mtu
        ipv4 := iface.settings.ipv4
        netmask := iface.settings.netmask
        broadcast := iface.settings.broadcast
        ipv6 := iface.settings.ipv6.map (·, ipv6PrefixLength) } := by
  have size : (planFor iface (link.opened iface.kind)).mtu = iface.settings.mtu := by
    rw [planFor_mtu, created]
    rfl
  rw [broughtUp_timeless admits, opened_state_of_created iface.kind created]
  simp only [LinkState.configured, LinkState.timeless, size, Option.or_none, List.nil_append, LinkState.mk.injEq]
  cases tap : iface.kind.isTap <;> simp [planFor, tap]

namespace Entry

variable {entry : Entry} {settings : Settings} {iface : Interface} {link : MemoryLink}

/-- Settings that are read from an entry alone and committed to a link that is created put the entry on the link. -/
theorem onLink_broughtUp (reads : entry.read {} = .ok settings) (committed : iface.settings = settings)
    (kind : iface.kind = entry.kind) (created : link.attached = false) (admits : link.Admits iface) :
    entry.OnLink iface.name iface.id (MemoryLink.broughtUp iface link) := by
  simp only [read, Checked.bind_eq_ok_iff_exists] at reads
  obtain ⟨mac, readsMac, ipv4, readsIpv4, netmask, readsNetmask, broadcast, readsBroadcast, ipv6, readsIpv6, mtu,
    readsMtu, same⟩ := reads
  obtain rfl := Except.ok.inj same
  have reported : (MemoryLink.broughtUp iface link).iface.settings.mac = some (chosenMac iface) := rfl
  have chosen : chosenMac iface = mac.getD (Mac.generate iface.id iface.name) := by
    rw [chosenMac, committed, Option.or_none]
  have left := MemoryLink.broughtUp_created created admits
  generalize MemoryLink.broughtUp iface link = driven at reported left ⊢
  simp only [LinkState.timeless, LinkState.mk.injEq, committed, kind, Option.or_none, chosen] at left
  obtain ⟨present, ofKind, adminUp, address, size, leftIpv4, leftNetmask, leftBroadcast, leftIpv6, -⟩ := left
  obtain ⟨appended, known, texts⟩ := parse?_of_appendIpv6List readsIpv6
  constructor
  case present => exact present
  case adminUp => exact adminUp
  case kind => exact ofKind
  case mac =>
    refine ⟨_, reported, fun text given => ?_, fun absent => ?_, chosen ▸ address⟩
    · rw [given] at readsMac
      obtain ⟨spelled, reads, rfl⟩ := Checked.mapM_some_eq_ok.mp readsMac
      exact chosen ▸ spelledBy_of_readMac reads
    · rw [absent] at readsMac
      cases readsMac
      exact chosen
  case ipv4 => exact leftIpv4 ▸ map_toText_of_mapM (fun _ _ => toText_of_readQuad) readsIpv4
  case netmask => exact leftNetmask ▸ map_toText_of_mapM (fun _ _ => toText_of_readNetmask) readsNetmask
  case broadcast => exact leftBroadcast ▸ map_toText_of_mapM (fun _ _ => toText_of_readQuad) readsBroadcast
  case ipv6 => exact ⟨ipv6, known ▸ texts, leftIpv6⟩
  case mtu =>
    rw [size]
    cases given : entry.mtu with
    | none =>
      rw [given] at readsMtu
      cases readsMtu
      rfl
    | some asked =>
      rw [given] at readsMtu
      obtain ⟨taken, checked, rfl⟩ := Checked.mapM_some_eq_ok.mp readsMtu
      exact (checkMtu_ok checked).1

end Entry

/-- An entry that is accepted ends up as it is written on a fresh link, if its settings pass their check and its frames
fit. -/
theorem entry_on_link (root : RootId) (name : String) (entry : Entry) (registry : Registry) (link : Nat)
    {iface : Interface} (accepted : (Interface.ofEntry root name entry registry).result = .ok iface)
    (valid : iface.settings.check = .ok ()) (fits : iface.settings.mtu.toNat + 18 ≤ iface.pool.capacity) :
    let reply := Driven.up MemoryLink.backend ⟨iface, { id := link }⟩
    iface.name = name ∧ iface.id = entry.id.getD (registry.root root).nextId
      ∧ reply.result = .ok () ∧ entry.OnLink iface.name iface.id reply.state := by
  intro reply
  have created : (Interface.ofEntry root name entry).Ensures
      (fun made _ => made.name = name ∧ made.id = entry.id.getD (registry.root root).nextId ∧ made.kind = entry.kind
        ∧ made.isUp = false ∧ entry.read {} = .ok made.settings)
      (fun _ _ => True) registry :=
    Interface.ofEntry_ensures entry (fun _ _ => trivial) (fun _ _ _ => trivial)
      fun settings _ reads => ⟨rfl, rfl, rfl, rfl, reads⟩
  obtain ⟨named, numbered, kind, down, reads⟩ := created.of_ok accepted
  have admits : MemoryLink.Admits { id := link } iface := by
    refine ⟨down, valid, MemoryLink.opened_exists iface.kind nofun, ?_⟩
    rw [Plan.room, MemoryLink.planFor_mtu]
    exact fits
  have raised : reply.state = MemoryLink.broughtUp iface { id := link } := MemoryLink.up_state rfl admits
  refine ⟨named, numbered, (MemoryLink.up_ok_iff rfl).mpr admits, ?_⟩
  rw [raised]
  exact entry.onLink_broughtUp reads rfl kind rfl admits

/-- An entry with every field but an id. -/
def Entry.full : Entry where
  mac := some "02-AB-00-00-00-0C"
  ipv4 := some "10.0.0.2"
  netmask := some "255.255.255.0"
  broadcast := some "10.0.0.255"
  ipv6 := ["2001:db8::2", "fe80::1"]
  mtu := some 9000

theorem entry_on_link_full :
    ∃ iface, (Interface.ofEntry 0 "tap0" Entry.full { roots := [{ capacity := defaultCapacity }] }).result = .ok iface
      ∧ (Driven.up MemoryLink.backend ⟨iface, { id := 0 }⟩).result = .ok ()
      ∧ Entry.full.OnLink "tap0" 0 (Driven.up MemoryLink.backend ⟨iface, { id := 0 }⟩).state := by
  have passes : ((Interface.ofEntry 0 "tap0" Entry.full
      { roots := [{ capacity := defaultCapacity }] }).result.toOption.any fun iface =>
        iface.settings.check.isOk && iface.settings.mtu.toNat + 18 ≤ iface.pool.capacity && iface.id = 0) = true := by
    decide +kernel
  cases accepted : (Interface.ofEntry 0 "tap0" Entry.full { roots := [{ capacity := defaultCapacity }] }).result with
  | error error => simp [accepted, Except.toOption] at passes
  | ok iface =>
    simp only [accepted, Except.toOption, Option.any_some, Bool.and_eq_true, decide_eq_true_eq] at passes
    obtain ⟨⟨valid, fits⟩, first⟩ := passes
    cases checked : iface.settings.check with
    | error v => simp [checked, Except.isOk, Except.toBool] at valid
    | ok =>
      obtain ⟨named, -, raised, onLink⟩ := entry_on_link 0 "tap0" Entry.full _ 0 accepted checked fits
      exact ⟨iface, rfl, raised, named ▸ first ▸ onLink⟩

end VirtualLink
