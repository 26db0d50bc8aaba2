import VirtualLink.Proofs.Session

namespace VirtualLink

open Call

variable {α : Type} {iface after : Interface} {done : Unit → Interface → Prop} {failed : Error → Interface → Prop}

namespace Interface

theorem requireDown_refuses (action : String) (up : iface.isUp = true) (next : Unit → Call Error Interface α) :
    (requireDown action >>= next) iface = ⟨.error (iface.stateError action), iface, []⟩ := by
  change Call.bind (Call.bind Call.get _) next iface = _
  simp only [Call.bind, Call.get, up, if_true, fail]
  rfl

theorem requireDown_grants (action : String) (down : iface.isUp = false) (next : Unit → Call Error Interface α)
    {done : α → Interface → Prop} :
    (requireDown action >>= next).Ensures done failed iface ↔ (next ()).Ensures done failed iface := by
  simp only [requireDown, ensures_bind, ensures_get, ensures_ite, ensures_pure]
  rw [if_neg (by simp [down])]

/-- Most setters check one value and put it into the settings. -/
theorem pending_ensures (down : iface.isUp = false) (action : String) (given : Checked α)
    (put : α → Settings → Settings) {rest : α → Call Error Interface Unit}
    (refused : ∀ v, given = .error v → failed (.violation v) iface)
    (granted : ∀ a, given = .ok a →
      (rest a).Ensures done failed { iface with settings := put a iface.settings }) :
    (do
      requireDown action
      let a ← Call.check given
      updateSettings (put a)
      rest a).Ensures done failed iface := by
  rw [requireDown_grants action down]
  cases known : given with
  | error v => exact refused v known
  | ok a => exact granted a known

end Interface

theorem checkMtu_ok {size chosen : UInt32} (checked : checkMtu size = .ok chosen) :
    chosen = size ∧ minMtu ≤ size ∧ size ≤ maxMtu := by
  unfold checkMtu at checked
  split at checked
  · cases checked
  · rename_i large
    split at checked
    · cases checked
    · rename_i small
      exact ⟨(Except.ok.inj checked).symm, UInt32.not_lt.mp large, UInt32.not_lt.mp small⟩

namespace Setter

/-- What the setter is called when it is refused. -/
def label : Setter → String
  | .mac _ => "set MAC address"
  | .ipv4 _ => "set IPv4 address"
  | .netmask _ => "set netmask"
  | .broadcast _ => "set broadcast address"
  | .ipv6 _ => "set IPv6 addresses"
  | .moreIpv6 _ => "add IPv6 address"
  | .mtu _ => "set MTU"
  | .entry _ => "configure"

/-- What a setter of one field makes of an interface. -/
inductive Changed (iface : Interface) : Setter → Interface → Prop
  | mac {text : String} {mac : Mac} (read : readMac text = .ok mac) :
      Changed iface (.mac text) { iface with settings := { iface.settings with mac := some mac } }
  | ipv4 {text : String} {addr : Ipv4} (read : readIpv4 text = .ok addr) :
      Changed iface (.ipv4 text) { iface with settings := { iface.settings with ipv4 := some addr } }
  | netmask {text : String} {mask : Ipv4} (read : readNetmask text = .ok mask) :
      Changed iface (.netmask text) { iface with settings := { iface.settings with netmask := some mask } }
  | broadcast {text : String} {addr : Ipv4} (read : readBroadcast text = .ok addr) :
      Changed iface (.broadcast text) { iface with settings := { iface.settings with broadcast := some addr } }
  | ipv6 {texts : List String} {addrs : List Ipv6} (read : readIpv6List texts = .ok addrs) :
      Changed iface (.ipv6 texts) { iface with settings := { iface.settings with ipv6 := addrs } }
  | moreIpv6 {text : String} {addr : Ipv6} (read : readIpv6 text = .ok addr) :
      Changed iface (.moreIpv6 text)
        { iface with settings := { iface.settings with ipv6 := iface.settings.ipv6 ++ [addr] } }
  | mtu {size : UInt32} (fits : minMtu ≤ size ∧ size ≤ maxMtu) :
      Changed iface (.mtu size) { iface with settings := { iface.settings with mtu := size }, mtuChosen := true }

/-- Makes the calls up to the first that is refused. -/
def callAll : List Setter → Call Error Interface Unit
  | [] => pure ()
  | setter :: rest => do
    setter.call
    callAll rest

theorem refuses (setter : Setter) (up : iface.isUp = true) :
    setter.call iface = ⟨.error (iface.stateError setter.label), iface, []⟩ := by
  cases setter <;> exact Interface.requireDown_refuses _ up _

/-- A setter of one field changes it, or nothing. -/
theorem call_ensures (down : iface.isUp = false) (setter : Setter) (single : ∀ given, setter ≠ .entry given)
    (refused : ∀ v, failed (.violation v) iface) (granted : ∀ after, setter.Changed iface after → done () after) :
    setter.call.Ensures done failed iface := by
  cases setter with
  | mac text => exact Interface.pending_ensures down _ _ _ (fun v _ => refused v) fun _ read => granted _ (.mac read)
  | ipv4 text => exact Interface.pending_ensures down _ _ _ (fun v _ => refused v) fun _ read => granted _ (.ipv4 read)
  | netmask text =>
    exact Interface.pending_ensures down _ _ _ (fun v _ => refused v) fun _ read => granted _ (.netmask read)
  | broadcast text =>
    exact Interface.pending_ensures down _ _ _ (fun v _ => refused v) fun _ read => granted _ (.broadcast read)
  | ipv6 texts => exact Interface.pending_ensures down _ _ _ (fun v _ => refused v) fun _ read => granted _ (.ipv6 read)
  | moreIpv6 text =>
    refine (Interface.requireDown_grants _ down _).mpr ?_
    cases read : readIpv6 text with
    | error v => exact refused v
    | ok addr =>
      simp only [ensures_bind, ensures_check_ok, ensures_get, ensures_discard]
      cases readIpv6List ((iface.settings.ipv6 ++ [addr]).map Ipv6.toText) with
      | error v => exact refused v
      | ok _ => exact granted _ (.moreIpv6 read)
  | mtu size =>
    refine Interface.pending_ensures down _ _ _ (fun v _ => refused v) fun chosen checked => ?_
    obtain ⟨rfl, fits⟩ := checkMtu_ok checked
    exact granted _ (.mtu fits)
  | entry given => exact absurd rfl (single given)

theorem Changed.isUp {setter : Setter} (changed : setter.Changed iface after) : after.isUp = iface.isUp := by
  cases changed <;> rfl

theorem callAll_cons (setter : Setter) {rest : List Setter} {next : Unit → Call Error Interface Unit}
    (later : (next ()).Ensures done failed = (callAll rest).Ensures done failed) :
    (setter.call >>= next).Ensures done failed = (callAll (setter :: rest)).Ensures done failed := by
  funext iface
  refine propext ?_
  simp only [callAll, ensures_bind]
  rw [← later]

theorem callAll_optional (given : Option α) (setter : α → Setter) {rest : List Setter}
    {next : Unit → Call Error Interface Unit}
    (later : (next ()).Ensures done failed = (callAll rest).Ensures done failed) :
    ((given.forM fun a => (setter a).call) >>= next).Ensures done failed
      = (callAll ((given.map setter).toList ++ rest)).Ensures done failed := by
  cases given with
  | none => exact later
  | some a => exact callAll_cons (setter a) later

end Setter

/-- What an entry gives, as the setters that take it over. -/
def Entry.setters (entry : Entry) : List Setter :=
  (entry.mac.map .mac).toList ++ ((entry.ipv4.map .ipv4).toList ++ ((entry.netmask.map .netmask).toList
    ++ ((entry.broadcast.map .broadcast).toList ++ .ipv6 entry.ipv6 :: (entry.mtu.map .mtu).toList)))

theorem Interface.configure_ensures (down : iface.isUp = false) (entry : Entry) :
    (configure entry).Ensures done failed iface ↔ (Setter.callAll entry.setters).Ensures done failed iface := by
  have mtu : (entry.mtu.forM setMtu).Ensures done failed
      = (Setter.callAll (entry.mtu.map .mtu).toList).Ensures done failed := by
    cases entry.mtu with
    | none => rfl
    | some size =>
      funext iface
      exact propext (ensures_bind (setMtu size) fun _ => pure ()).symm
  have fields :
      (do
        entry.mac.forM setMac
        entry.ipv4.forM setIpv4
        entry.netmask.forM setNetmask
        entry.broadcast.forM setBroadcast
        setIpv6 entry.ipv6
        entry.mtu.forM setMtu).Ensures done failed = (Setter.callAll entry.setters).Ensures done failed :=
    Setter.callAll_optional entry.mac .mac <| Setter.callAll_optional entry.ipv4 .ipv4 <|
      Setter.callAll_optional entry.netmask .netmask <| Setter.callAll_optional entry.broadcast .broadcast <|
      Setter.callAll_cons (.ipv6 entry.ipv6) mtu
  unfold configure
  rw [requireDown_grants _ down, ensures_bind, ensures_get, ← fields]
  split
  · exact Iff.rfl
  · exact Iff.rfl

namespace Setter

theorem callAll_ensures {setters : List Setter} (down : iface.isUp = false)
    (single : ∀ setter ∈ setters, ∀ given, setter ≠ .entry given) :
    (callAll setters).Ensures (fun _ after => after.isUp = false) (fun error _ => ∃ v, error = .violation v) iface := by
  induction setters generalizing iface with
  | nil => exact down
  | cons setter rest ih =>
    rw [List.forall_mem_cons] at single
    refine (ensures_bind _ _).mpr (call_ensures down setter single.1 (fun v => ⟨v, rfl⟩) fun after changed => ?_)
    exact ih (changed.isUp.trans down) single.2

theorem single_of_mem_setters (entry : Entry) : ∀ setter ∈ entry.setters, ∀ given, setter ≠ .entry given := by
  rintro setter member given rfl
  simp [Entry.setters] at member

/-- While the interface is down only a broken rule stops a setter. -/
theorem call_violation (down : iface.isUp = false) (setter : Setter) :
    setter.call.Ensures (fun _ _ => True) (fun error _ => ∃ v, error = .violation v) iface := by
  by_cases composite : ∃ given, setter = .entry given
  · obtain ⟨entry, rfl⟩ := composite
    refine (Interface.configure_ensures down entry).mpr ?_
    exact (callAll_ensures down (single_of_mem_setters entry)).mono (fun _ _ _ => trivial) fun _ _ broken => broken
  · have single := not_exists.mp composite
    exact call_ensures down setter single (fun v => ⟨v, rfl⟩) fun _ _ => trivial

/-- The setter asks for a size. -/
def givesMtu : Setter → Bool
  | .mtu _ => true
  | .entry given => given.mtu.isSome
  | _ => false

theorem Changed.mtuChosen {setter : Setter} (changed : setter.Changed iface after) (other : setter.givesMtu = false) :
    after.mtuChosen = iface.mtuChosen := by
  cases changed with
  | mtu fits => cases other
  | _ => rfl

/-- If only the last of the setters asks for a size, one is chosen only if all of them are granted. -/
theorem callAll_mtuChosen {setters : List Setter} (down : iface.isUp = false)
    (single : ∀ setter ∈ setters, ∀ given, setter ≠ .entry given)
    (last : setters.Pairwise fun setter _ => setter.givesMtu = false) :
    (callAll setters).Ensures
      (fun _ after => after.mtuChosen = true → iface.mtuChosen = true ∨ ∃ setter ∈ setters, setter.givesMtu = true)
      (fun _ after => after.mtuChosen = iface.mtuChosen) iface := by
  induction setters generalizing iface with
  | nil => exact fun chosen => .inl chosen
  | cons setter rest ih =>
    rw [List.forall_mem_cons] at single
    obtain ⟨earlier, later⟩ := List.pairwise_cons.mp last
    refine (ensures_bind _ _).mpr (call_ensures down setter single.1 (fun _ => rfl) fun between changed => ?_)
    have downStill : between.isUp = false := changed.isUp.trans down
    by_cases gives : setter.givesMtu = true
    · cases rest with
      | nil => exact fun _ => .inr ⟨setter, List.mem_cons_self .., gives⟩
      | cons next _ =>
        have none := earlier next (List.mem_cons_self ..)
        exact absurd gives (by simp [none])
    · have kept : between.mtuChosen = iface.mtuChosen := changed.mtuChosen (Bool.eq_false_iff.mpr gives)
      refine (ih downStill single.2 later).mono (fun _ final chosen size => ?_) fun _ _ same => same.trans kept
      rcases chosen size with before | ⟨other, among, asks⟩
      · exact .inl (kept ▸ before)
      · exact .inr ⟨other, List.mem_cons_of_mem setter among, asks⟩

theorem givesMtu_of_mem_setters (entry : Entry) :
    ∀ setter ∈ entry.setters, setter.givesMtu = true → entry.mtu.isSome = true := by
  intro setter member gives
  cases given : entry.mtu with
  | some size => rfl
  | none =>
    simp only [Entry.setters, given, List.mem_append, List.mem_cons, Option.mem_toList, Option.map_eq_some_iff,
      Option.map_none, Option.toList_none, List.not_mem_nil, or_false] at member
    rcases member with ⟨_, _, rfl⟩ | ⟨_, _, rfl⟩ | ⟨_, _, rfl⟩ | ⟨_, _, rfl⟩ | rfl <;> cases gives

theorem pairwise_setters (entry : Entry) :
    entry.setters.Pairwise fun setter _ => setter.givesMtu = false := by
  have optional {α : Type} (given : Option α) (setter : α → Setter) (quiet : ∀ a, (setter a).givesMtu = false)
      {rest : List Setter} (later : rest.Pairwise fun setter _ => setter.givesMtu = false) :
      ((given.map setter).toList ++ rest).Pairwise fun setter _ => setter.givesMtu = false := by
    cases given with
    | none => exact later
    | some a => exact List.pairwise_cons.mpr ⟨fun _ _ => quiet a, later⟩
  have mtu : ((entry.mtu.map Setter.mtu).toList).Pairwise fun setter _ => setter.givesMtu = false := by
    cases entry.mtu <;> simp
  unfold Entry.setters
  refine optional _ _ (fun _ => rfl) (optional _ _ (fun _ => rfl) (optional _ _ (fun _ => rfl) ?_))
  exact optional _ _ (fun _ => rfl) (List.pairwise_cons.mpr ⟨fun _ _ => rfl, mtu⟩)

/-- A size is chosen only if a setter that asks for one is granted. -/
theorem call_mtuChosen (down : iface.isUp = false) (setter : Setter) :
    setter.call.Ensures
      (fun _ after => after.mtuChosen = true → iface.mtuChosen = true ∨ setter.givesMtu = true)
      (fun _ after => after.mtuChosen = iface.mtuChosen) iface := by
  by_cases composite : ∃ given, setter = .entry given
  · obtain ⟨entry, rfl⟩ := composite
    have all := callAll_mtuChosen down (single_of_mem_setters entry) (pairwise_setters entry)
    refine (Interface.configure_ensures down entry).mpr (all.mono (fun _ after chosen size => ?_) fun _ _ same => same)
    refine (chosen size).imp_right ?_
    rintro ⟨setter, member, gives⟩
    exact givesMtu_of_mem_setters entry setter member gives
  · refine call_ensures down setter (not_exists.mp composite) (fun _ => rfl) fun after changed size => ?_
    by_cases gives : setter.givesMtu = true
    · exact .inr gives
    · exact .inl (changed.mtuChosen (Bool.eq_false_iff.mpr gives) ▸ size)

end Setter

end VirtualLink
