import VirtualLink.Proofs.MemoryLink.Committing
import VirtualLink.Proofs.Pending

namespace VirtualLink

open Call

variable {α β γ : Type}

namespace Checked

theorem map_eq_error_iff {ε : Type} {f : α → β} {outcome : Except ε α} {error : ε} :
    outcome.map f = .error error ↔ outcome = .error error := by
  cases outcome <;> simp [Except.map]

@[simp]
theorem mapM_some_eq_error {read : α → Checked β} {a : α} {v : Violation} :
    (some a).mapM read = .error v ↔ read a = .error v :=
  map_eq_error_iff

@[simp]
theorem mapM_some_eq_ok {read : α → Checked β} {a : α} {given : Option β} :
    (some a).mapM read = .ok given ↔ ∃ b, read a = .ok b ∧ given = some b := by
  change some <$> read a = .ok given ↔ _
  cases read a <;> simp [Functor.map, Except.map, eq_comm]

theorem exists_mapM_some {read : α → Checked β} {a : α} :
    (∃ taken, (some a).mapM read = .ok taken) ↔ ∃ b, read a = .ok b := by
  simp only [mapM_some_eq_ok]
  exact ⟨fun ⟨_, b, known, _⟩ => ⟨b, known⟩, fun ⟨b, known⟩ => ⟨some b, b, known, rfl⟩⟩

/-- What was read comes with what it was read for. -/
theorem reads_of_mapM {read : α → Checked β} {given : Option α} {b : β} (reads : given.mapM read = .ok (some b)) :
    ∃ a, given = some a ∧ read a = .ok b := by
  cases given with
  | none => cases reads
  | some a =>
    obtain ⟨b', known, same⟩ := mapM_some_eq_ok.mp reads
    exact ⟨a, rfl, Option.some.inj same ▸ known⟩

theorem isSome_of_mapM {read : α → Checked β} {given : Option α} {taken : Option β}
    (reads : given.mapM read = .ok taken) : taken.isSome = given.isSome := by
  cases given with
  | none => cases reads; rfl
  | some a =>
    obtain ⟨b, _, rfl⟩ := mapM_some_eq_ok.mp reads
    rfl

theorem bind_eq_ok_iff_exists {ε : Type} {first : Except ε α} {next : α → Except ε β} {b : β} :
    (first >>= next) = .ok b ↔ ∃ a, first = .ok a ∧ next a = .ok b := by
  cases first with
  | error v => simp [bind, Except.bind]
  | ok a => simp [bind, Except.bind]

end Checked

/-- The first item that is not good. -/
def FirstBad (good : α → Prop) (items : List α) (bad : α) : Prop :=
  ∃ before behind, items = before ++ bad :: behind ∧ (∀ item ∈ before, good item) ∧ ¬ good bad

theorem FirstBad.not_good {good : α → Prop} {items : List α} {bad : α} (first : FirstBad good items bad) :
    ¬ good bad := by
  obtain ⟨before, behind, whole, early, broken⟩ := first
  exact broken

theorem firstBad_cons {good : α → Prop} {item bad : α} {rest : List α} :
    FirstBad good (item :: rest) bad ↔ (¬ good item ∧ bad = item) ∨ (good item ∧ FirstBad good rest bad) := by
  constructor
  · rintro ⟨before, behind, whole, early, broken⟩
    cases before with
    | nil =>
      obtain ⟨rfl, -⟩ := List.cons.inj whole
      exact .inl ⟨broken, rfl⟩
    | cons first before =>
      obtain ⟨rfl, later⟩ := List.cons.inj whole
      rw [List.forall_mem_cons] at early
      exact .inr ⟨early.1, before, behind, later, early.2, broken⟩
  · rintro (⟨broken, rfl⟩ | ⟨fine, before, behind, rfl, early, broken⟩)
    · exact ⟨[], rest, rfl, nofun, broken⟩
    · exact ⟨item :: before, behind, rfl, List.forall_mem_cons.mpr ⟨fine, early⟩, broken⟩

/-- Items are read one by one up to the first that cannot be read, and the error is that of this one. -/
theorem Checked.mapM_eq_error_iff {ε : Type} {read : α → Except ε β} {good : α → Prop} {items : List α} {error : ε}
    (readable : ∀ item, good item ↔ ∃ b, read item = .ok b) :
    items.mapM read = .error error ↔ ∃ bad, FirstBad good items bad ∧ read bad = .error error := by
  induction items with
  | nil =>
    refine iff_of_false nofun ?_
    rintro ⟨bad, ⟨before, behind, whole, -, -⟩, -⟩
    simp at whole
  | cons item rest ih =>
    rw [List.mapM_cons]
    simp only [firstBad_cons, readable item]
    cases known : read item with
    | error first =>
      have stops : (Except.error first >>= fun b => rest.mapM read >>= fun later => pure (b :: later))
          = .error first := rfl
      rw [stops]
      constructor
      · rintro ⟨⟩
        exact ⟨item, .inl ⟨nofun, rfl⟩, known⟩
      · rintro ⟨bad, ⟨-, rfl⟩ | ⟨⟨b, ⟨⟩⟩, -⟩, broken⟩
        exact congrArg Except.error (Except.error.inj (known.symm.trans broken))
    | ok b =>
      have goesOn : (Except.ok b >>= fun b => rest.mapM read >>= fun later => pure (b :: later)) = .error error
          ↔ rest.mapM read = .error error := by
        cases rest.mapM read <;> simp [bind, Except.bind, pure, Except.pure]
      rw [goesOn, ih]
      simp

/-- The settings with what the entry gives in their place. The IPv6 list of an entry always takes the place of the
old one. -/
def Entry.read (entry : Entry) (settings : Settings) : Checked Settings := do
  let mac ← entry.mac.mapM readMac
  let ipv4 ← entry.ipv4.mapM readIpv4
  let netmask ← entry.netmask.mapM readNetmask
  let broadcast ← entry.broadcast.mapM readBroadcast
  let ipv6 ← readIpv6List entry.ipv6
  let mtu ← entry.mtu.mapM checkMtu
  return {
    mac := mac.or settings.mac
    ipv4 := ipv4.or settings.ipv4
    netmask := netmask.or settings.netmask
    broadcast := broadcast.or settings.broadcast
    ipv6
    mtu := mtu.getD settings.mtu }

/-- The call reads its text and puts what it read into the settings, or fails with the rule that is broken. -/
def Takes (read : α → Checked β) (put : β → Settings → Settings) (set : α → Call Error Interface Unit) : Prop :=
  ∀ (a : α) {iface : Interface} {done : Unit → Interface → Prop} {failed : Error → Interface → Prop},
    iface.isUp = false → (∀ v, read a = .error v → failed (.violation v) iface) →
      (∀ b, read a = .ok b → done () { iface with settings := put b iface.settings }) →
      (set a).Ensures done failed iface

namespace Interface

theorem setMac_takes : Takes readMac (fun mac settings => { settings with mac := some mac }) setMac :=
  fun _ _ _ _ down refused granted => pending_ensures down _ _ _ refused granted

theorem setIpv4_takes : Takes readIpv4 (fun addr settings => { settings with ipv4 := some addr }) setIpv4 :=
  fun _ _ _ _ down refused granted => pending_ensures down _ _ _ refused granted

theorem setNetmask_takes : Takes readNetmask (fun mask settings => { settings with netmask := some mask }) setNetmask :=
  fun _ _ _ _ down refused granted => pending_ensures down _ _ _ refused granted

theorem setBroadcast_takes :
    Takes readBroadcast (fun addr settings => { settings with broadcast := some addr }) setBroadcast :=
  fun _ _ _ _ down refused granted => pending_ensures down _ _ _ refused granted

theorem setIpv6_takes : Takes readIpv6List (fun ipv6 settings => { settings with ipv6 }) setIpv6 :=
  fun _ _ _ _ down refused granted => pending_ensures down _ _ _ refused granted

/-- With these pending settings the call ends with the settings that were read, or with the rule that is broken. -/
def Settles (iface : Interface) (chosen : Bool) (call : Call Error Interface Unit) (pending : Settings)
    (read : Checked Settings) : Prop :=
  call.Ensures (fun _ after => ∃ settings, read = .ok settings ∧ after = { iface with settings, mtuChosen := chosen })
    (fun error _ => ∃ v, read = .error v ∧ error = .violation v) { iface with settings := pending }

variable {iface : Interface} {chosen : Bool} {pending : Settings}

/-- A setter that is called for what an entry gives, and what comes after it. -/
theorem Settles.take {set : α → Call Error Interface Unit} {read : α → Checked β}
    {next : Unit → Call Error Interface Unit} {rest : Option β → Checked Settings}
    (put : Option β → Settings → Settings) (takes : Takes read (fun b => put (some b)) set) (given : Option α)
    (nothing : put none pending = pending)
    (down : iface.isUp = false)
    (later : ∀ taken, given.mapM read = .ok taken → iface.Settles chosen (next ()) (put taken pending) (rest taken)) :
    iface.Settles chosen (given.forM set >>= next) pending (given.mapM read >>= rest) := by
  cases given with
  | none => exact nothing ▸ later none rfl
  | some a =>
    refine (ensures_bind _ _).mpr (takes a down (fun v broken => ?_) fun b known => ?_)
    · have whole := Checked.mapM_some_eq_error.mpr broken
      exact ⟨v, by rw [whole]; rfl, rfl⟩
    · have whole := Checked.mapM_some_eq_ok.mpr ⟨b, known, rfl⟩
      rw [whole]
      exact later (some b) whole

/-- The size comes last, and that one was asked for is kept. -/
theorem Settles.size (given : Option UInt32) (down : iface.isUp = false) :
    iface.Settles (iface.mtuChosen || given.isSome) (given.forM setMtu) pending
      (given.mapM checkMtu >>= fun mtu => pure { pending with mtu := mtu.getD pending.mtu }) := by
  cases given with
  | none => exact (ensures_pure PUnit.unit).mpr ⟨pending, rfl, by simp⟩
  | some size =>
    have idle : ({ iface with settings := pending } : Interface).isUp = false := down
    refine pending_ensures idle "set MTU" (checkMtu size) (fun mtu settings => { settings with mtu })
      (fun v broken => ?_) fun mtu known => ?_
    · have whole := Checked.mapM_some_eq_error.mpr broken
      exact ⟨v, by rw [whole]; rfl, rfl⟩
    · have whole := Checked.mapM_some_eq_ok.mpr ⟨mtu, known, rfl⟩
      simp only [ensures_bind, ensures_modify, ensures_get, ensures_log, whole]
      exact ⟨{ pending with mtu }, rfl, by simp⟩

/-- Configuring reads the entry: it ends with the settings that were read, or with the first rule that is broken. -/
theorem configure_settles (down : iface.isUp = false) (entry : Entry) :
    iface.Settles (iface.mtuChosen || entry.mtu.isSome) (configure entry) pending (entry.read pending) := by
  have fields : iface.Settles (iface.mtuChosen || entry.mtu.isSome)
      (do
        entry.mac.forM setMac
        entry.ipv4.forM setIpv4
        entry.netmask.forM setNetmask
        entry.broadcast.forM setBroadcast
        setIpv6 entry.ipv6
        entry.mtu.forM setMtu) pending (entry.read pending) := by
    refine .take (fun mac settings => { settings with mac := mac.or settings.mac }) setMac_takes _ rfl down
      fun mac _ => ?_
    refine .take (fun addr settings => { settings with ipv4 := addr.or settings.ipv4 }) setIpv4_takes _ rfl down
      fun ipv4 _ => ?_
    refine .take (fun mask settings => { settings with netmask := mask.or settings.netmask }) setNetmask_takes _ rfl
      down fun netmask _ => ?_
    refine .take (fun addr settings => { settings with broadcast := addr.or settings.broadcast }) setBroadcast_takes _
      rfl down fun broadcast _ => ?_
    refine (ensures_bind _ _).mpr (setIpv6_takes entry.ipv6 down (fun v broken => ?_) fun ipv6 known => ?_)
    · exact ⟨v, by rw [broken]; rfl, rfl⟩
    · rw [known]
      exact Settles.size entry.mtu down
  have idle : ({ iface with settings := pending } : Interface).isUp = false := down
  unfold Settles configure
  rw [requireDown_grants _ idle, ensures_bind, ensures_get]
  split
  · exact fields
  · exact fields

end Interface

/-! What is read passes the check of its field again. -/

/-- The address of a text is the one that was parsed, if it passes the check. -/
theorem parse_of_readMac {text : String} {mac : Mac} (reads : readMac text = .ok mac) :
    Mac.parse text = .ok mac ∧ checkMac mac = .ok () := by
  unfold readMac at reads
  split at reads
  · cases reads
  · rename_i parsed known
    cases checked : checkMac parsed with
    | error v => simp [checked, Except.map] at reads
    | ok =>
      simp only [checked, Except.map, Except.ok.injEq] at reads
      exact reads ▸ ⟨known, checked⟩

theorem checkMac_of_readMac {text : String} {mac : Mac} (reads : readMac text = .ok mac) : checkMac mac = .ok () :=
  (parse_of_readMac reads).2

theorem checkNetmask_of_readNetmask {text : String} {mask : Ipv4} (reads : readNetmask text = .ok mask) :
    checkNetmask mask = .ok () := by
  obtain ⟨parsed, _, rest⟩ := Checked.bind_eq_ok_iff_exists.mp reads
  obtain ⟨checked, same⟩ := Checked.bind_eq_ok_iff.mp rest
  exact Except.ok.inj same ▸ checked

theorem checkDistinct_eq_ok {known addrs : List Ipv6} (distinct : (known ++ addrs).Nodup) :
    checkDistinct known addrs = .ok () := by
  induction addrs generalizing known with
  | nil => rfl
  | cons addr rest ih =>
    have fresh : addr ∉ known := fun early =>
      (List.nodup_append.mp distinct).2.2 addr early addr (List.mem_cons_self ..) rfl
    rw [checkDistinct, if_neg fresh]
    exact ih (by simpa using distinct)

theorem nodup_append_singleton {known : List Ipv6} {addr : Ipv6} (distinct : known.Nodup) (fresh : addr ∉ known) :
    (known ++ [addr]).Nodup := by
  refine List.nodup_append.mpr ⟨distinct, List.nodup_cons.mpr ⟨List.not_mem_nil, List.nodup_nil⟩, ?_⟩
  intro old member last single same
  rw [same, List.mem_singleton.mp single] at member
  exact fresh member

theorem nodup_of_appendIpv6List {texts : List String} {known addrs : List Ipv6} (before : known.Nodup)
    (reads : appendIpv6List known texts = .ok addrs) : addrs.Nodup := by
  induction texts generalizing known with
  | nil => exact Except.ok.inj reads ▸ before
  | cons text rest ih =>
    obtain ⟨addr, _, appended⟩ := Checked.bind_eq_ok_iff_exists.mp reads
    split at appended
    · cases appended
    · rename_i fresh
      exact ih (nodup_append_singleton before fresh) appended

theorem checkCompanion_eq_ok_iff {field : Field} {ipv4 companion : Option Ipv4} :
    checkCompanion field ipv4 companion = .ok () ↔ (ipv4 = none → companion = none) := by
  cases ipv4 <;> cases companion <;> simp [checkCompanion]

namespace Entry

variable {entry : Entry} {settings pending : Settings}

/-- Every text of an entry can be read, and its size fits. -/
structure Readable (entry : Entry) : Prop where
  mac : ∃ mac, entry.mac.mapM readMac = .ok mac
  ipv4 : ∃ addr, entry.ipv4.mapM readIpv4 = .ok addr
  netmask : ∃ mask, entry.netmask.mapM readNetmask = .ok mask
  broadcast : ∃ addr, entry.broadcast.mapM readBroadcast = .ok addr
  ipv6 : ∃ addrs, readIpv6List entry.ipv6 = .ok addrs
  mtu : ∃ size, entry.mtu.mapM checkMtu = .ok size

theorem exists_read_iff (pending : Settings) :
    (∃ settings, entry.read pending = .ok settings) ↔ entry.Readable := by
  constructor
  · rintro ⟨settings, reads⟩
    simp only [read, Checked.bind_eq_ok_iff_exists] at reads
    obtain ⟨mac, readsMac, ipv4, readsIpv4, netmask, readsNetmask, broadcast, readsBroadcast, ipv6, readsIpv6, mtu,
      readsMtu, _⟩ := reads
    exact ⟨⟨mac, readsMac⟩, ⟨ipv4, readsIpv4⟩, ⟨netmask, readsNetmask⟩, ⟨broadcast, readsBroadcast⟩, ⟨ipv6, readsIpv6⟩,
      ⟨mtu, readsMtu⟩⟩
  · rintro ⟨⟨mac, readsMac⟩, ⟨ipv4, readsIpv4⟩, ⟨netmask, readsNetmask⟩, ⟨broadcast, readsBroadcast⟩,
      ⟨ipv6, readsIpv6⟩, ⟨mtu, readsMtu⟩⟩
    simp only [read, Checked.bind_eq_ok_iff_exists]
    exact ⟨_, mac, readsMac, ipv4, readsIpv4, netmask, readsNetmask, broadcast, readsBroadcast, ipv6, readsIpv6, mtu,
      readsMtu, rfl⟩

/-- Without an address nothing goes with it. -/
def Accompanied (entry : Entry) : Prop :=
  entry.ipv4 = none → entry.netmask = none ∧ entry.broadcast = none

/-- Of what an entry gives to an interface without settings, the check has nothing to find but what lacks its
address. -/
theorem check_iff_accompanied (reads : entry.read {} = .ok settings) :
    settings.check = .ok () ↔ entry.Accompanied := by
  simp only [read, Checked.bind_eq_ok_iff_exists] at reads
  obtain ⟨mac, readsMac, ipv4, readsIpv4, netmask, readsNetmask, broadcast, readsBroadcast, ipv6, readsIpv6, mtu,
    readsMtu, same⟩ := reads
  obtain rfl := Except.ok.inj same
  have macPasses : (mac.or none).forM checkMac = Except.ok () := by
    cases mac with
    | none => rfl
    | some mac =>
      obtain ⟨text, _, known⟩ := Checked.reads_of_mapM readsMac
      exact checkMac_of_readMac known
  have netmaskPasses : (netmask.or none).forM checkNetmask = Except.ok () := by
    cases netmask with
    | none => rfl
    | some mask =>
      obtain ⟨text, _, known⟩ := Checked.reads_of_mapM readsNetmask
      exact checkNetmask_of_readNetmask known
  have distinct : checkDistinct [] ipv6 = .ok () :=
    checkDistinct_eq_ok (nodup_of_appendIpv6List List.nodup_nil readsIpv6)
  have fits : minMtu ≤ mtu.getD defaultMtu ∧ mtu.getD defaultMtu ≤ maxMtu := by
    cases mtu with
    | none => decide
    | some size =>
      obtain ⟨asked, _, known⟩ := Checked.reads_of_mapM readsMtu
      exact (checkMtu_ok known).1 ▸ (checkMtu_ok known).2
  have absent {α β : Type} {read : α → Checked β} {given : Option α} {taken : Option β}
      (reads : given.mapM read = .ok taken) : taken = none ↔ given = none := by
    rw [← Option.not_isSome_iff_eq_none, Checked.isSome_of_mapM reads, Option.not_isSome_iff_eq_none]
  rw [Settings.check_eq_ok_iff]
  simp only [checkCompanion_eq_ok_iff, Option.or_none, absent readsIpv4, absent readsNetmask, absent readsBroadcast]
  rw [Option.or_none] at macPasses netmaskPasses
  constructor
  · rintro ⟨_, _, netmask, broadcast, _⟩ without
    exact ⟨netmask without, broadcast without⟩
  · intro accompanied
    exact ⟨macPasses, netmaskPasses, fun without => (accompanied without).1, fun without => (accompanied without).2,
      distinct, fits⟩

end Entry

end VirtualLink
