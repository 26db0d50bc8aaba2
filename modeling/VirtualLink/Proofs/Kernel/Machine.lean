import VirtualLink.Proofs.Kernel.Links
import VirtualLink.System.Machine

namespace VirtualLink.Machine

open Call

variable {ε α : Type} {machine : Machine}

/-- What a machine knows about its links. -/
def links (machine : Machine) : Links where
  index? name := (machine.nic? name).map Nic.index
  up index := (machine.nicAt? index).any Nic.up
  takesPart index := (machine.nicAt? index).any fun nic => Nic.minIpv6Mtu ≤ nic.mtu
  addresses index := (machine.nicAt? index).elim [] Nic.ipv6

section

variable {f : Nic → Nic} (name : ∀ nic, (f nic).name = nic.name) (index : ∀ nic, (f nic).index = nic.index)

include name index

theorem index?_updateNic (i : Nat) : (machine.updateNic i f).links.index? = machine.links.index? := by
  funext other
  have named (nic : Nic) : (if nic.index = i then f nic else nic).name = nic.name := by split <;> simp [name]
  have numbered (nic : Nic) : (if nic.index = i then f nic else nic).index = nic.index := by split <;> simp [index]
  simp only [links, updateNic, nic?, List.find?_map, Function.comp_def, named, Option.map_map, numbered]

omit name in
theorem nicAt?_updateNic (i other : Nat) :
    (machine.updateNic i f).nicAt? other
      = if other = i then (machine.nicAt? other).map f else machine.nicAt? other := by
  have numbered (nic : Nic) : (if nic.index = i then f nic else nic).index = nic.index := by split <;> simp [index]
  simp only [updateNic, nicAt?, List.find?_map, Function.comp_def, numbered]
  cases found : machine.nics.find? fun nic => nic.index = other with
  | none => simp
  | some nic =>
    have placed : nic.index = other := by simpa using List.find?_some found
    by_cases same : other = i <;> simp [placed, same]

theorem links_updateNic_of_none {i : Nat} (missing : machine.nicAt? i = none) :
    (machine.updateNic i f).links = machine.links := by
  refine Links.ext (index?_updateNic name index i) ?_ ?_ ?_
  all_goals
    funext other
    simp only [links, nicAt?_updateNic index]
    split
    · subst other
      rw [missing]
      rfl
    · rfl

theorem links_updateNic_of_some {i : Nat} {nic : Nic} (found : machine.nicAt? i = some nic) :
    (machine.updateNic i f).links
      = { machine.links with
          up := Function.update machine.links.up i (f nic).up
          takesPart := Function.update machine.links.takesPart i (Nic.minIpv6Mtu ≤ (f nic).mtu)
          addresses := Function.update machine.links.addresses i (f nic).ipv6 } := by
  refine Links.ext (index?_updateNic name index i) ?_ ?_ ?_
  all_goals
    funext other
    simp only [links, nicAt?_updateNic index, Function.update_apply]
    split
    · subst other
      rw [found]
      rfl
    · rfl

end

/-- A change of a link that concerns nothing of what the machine knows about its links. -/
structure Unnoticed (f : Nic → Nic) : Prop where
  name : ∀ nic, (f nic).name = nic.name
  index : ∀ nic, (f nic).index = nic.index
  up : ∀ nic, (f nic).up = nic.up
  mtu : ∀ nic, (f nic).mtu = nic.mtu
  ipv6 : ∀ nic, (f nic).ipv6 = nic.ipv6

theorem Unnoticed.links_updateNic {f : Nic → Nic} (unnoticed : Unnoticed f) (i : Nat) (machine : Machine) :
    (machine.updateNic i f).links = machine.links := by
  cases found : machine.nicAt? i with
  | none => exact links_updateNic_of_none unnoticed.name unnoticed.index found
  | some nic =>
    rw [links_updateNic_of_some unnoticed.name unnoticed.index found, unnoticed.up, unnoticed.mtu, unnoticed.ipv6]
    refine Links.ext rfl ?_ ?_ ?_
    all_goals exact Function.update_eq_self_iff.mpr (by simp [links, found])

theorem unnoticed_transmit (frame : Bytes) : Unnoticed (Nic.transmit frame) :=
  ⟨fun _ => rfl, fun _ => rfl, fun _ => rfl, fun _ => rfl, fun _ => rfl⟩

theorem unnoticed_receive (frame : Bytes) : Unnoticed (Nic.receive frame) :=
  ⟨fun _ => rfl, fun _ => rfl, fun _ => rfl, fun _ => rfl, fun _ => rfl⟩

theorem unnoticed_loop (frame : Bytes) : Unnoticed (Nic.loop frame) :=
  ⟨fun _ => rfl, fun _ => rfl, fun _ => rfl, fun _ => rfl, fun _ => rfl⟩

theorem switched_setUp {nic : Nic} {i : Nat} (found : machine.nicAt? i = some nic) (up : Bool) :
    machine.links.Switched (machine.updateNic i (Nic.setUp up)).links i up := by
  rw [links_updateNic_of_some (fun nic => show (Nic.setUp up nic).name = nic.name from rfl) (fun _ => rfl) found]
  refine ⟨rfl, fun takesPart => ?_, fun was down => ?_, Function.update_self ..⟩
  · simpa [links, found, Nic.setUp] using takesPart
  · have raised : nic.up = true := by simpa [links, found] using was
    simp [Nic.setUp, raised, down]

/-- A change of a link that does not take it up and gives it no address. -/
structure Sparing (f : Nic → Nic) : Prop where
  index : ∀ nic, (f nic).index = nic.index
  up : ∀ nic, (f nic).up = nic.up
  ipv6 : ∀ nic, (f nic).ipv6 ⊆ nic.ipv6

theorem sparing_setMtu (mtu : UInt32) : Sparing (Nic.setMtu mtu) where
  index _ := rfl
  up _ := rfl
  ipv6 nic := by
    simp only [Nic.setMtu]
    split
    · exact List.nil_subset _
    · exact List.Subset.refl _

theorem grounded_iff {i : Nat} {held : List Ipv6} :
    machine.links.Grounded i held ↔ ∀ nic, machine.nicAt? i = some nic → nic.up = false ∧ nic.ipv6 ⊆ held := by
  constructor
  · rintro ⟨down, few⟩ nic found
    simp only [links, found, Option.any_some, Option.elim_some] at down few
    exact ⟨down, few⟩
  · intro grounded
    cases found : machine.nicAt? i with
    | none => constructor <;> simp [links, found]
    | some nic =>
      obtain ⟨down, few⟩ := grounded nic found
      constructor
      · simpa [links, found] using down
      · simpa [links, found] using few

theorem Sparing.grounded_updateNic {f : Nic → Nic} (sparing : Sparing f) (i : Nat) {other : Nat} {held : List Ipv6}
    (before : machine.links.Grounded other held) : (machine.updateNic i f).links.Grounded other held := by
  rw [grounded_iff] at before ⊢
  intro nic found
  rw [nicAt?_updateNic sparing.index] at found
  split at found
  · obtain ⟨old, was, rfl⟩ := Option.map_eq_some_iff.mp found
    obtain ⟨down, few⟩ := before old was
    exact ⟨(sparing.up old).trans down, List.Subset.trans (sparing.ipv6 old) few⟩
  · exact before nic found

theorem grounded_closeDescriptor (descriptor : Descriptor) {other : Nat} {held : List Ipv6}
    (before : machine.links.Grounded other held) : (machine.closeDescriptor descriptor).links.Grounded other held := by
  have without (i : Nat) (left : Machine) (same : left.nics = machine.nics.filter (·.index ≠ i)) :
      left.links.Grounded other held := by
    rw [grounded_iff] at before ⊢
    intro nic found
    rw [nicAt?, same, List.find?_filter] at found
    have kept : nic.index ≠ i ∧ nic.index = other := by simpa using List.find?_some found
    have apart : other ≠ i := kept.2 ▸ kept.1
    refine before nic ?_
    rw [nicAt?, ← found]
    congr 1
    funext link
    by_cases placed : link.index = other <;> simp [placed, apart]
  unfold closeDescriptor
  split
  · exact before
  · simp only [closeQueue]
    split
    · exact before
    · split
      · exact before
      · exact without _ _ rfl
  · exact before

section

variable {held : Links}

theorem modify_keeps {f : Machine → Machine} (same : ∀ machine, (f machine).links = machine.links) :
    (Call.modify f : Call ε Machine Unit).Keeps fun machine => machine.links = held :=
  fun machine before => (same machine).trans before

theorem require_keeps (condition : Bool) (errno : Errno) :
    (require condition errno).Keeps fun machine => machine.links = held :=
  .ite _ (fun _ before => before) fun _ before => before

theorem reportAlarm_keeps (socket : PacketSocket) :
    (reportAlarm socket).Keeps fun machine => machine.links = held :=
  .ite _ (Keeps.bind (modify_keeps fun _ => rfl) fun _ _ before => before) fun _ before => before

theorem readFrame_keeps (descriptor : Descriptor) (limit : Nat) :
    (readFrame descriptor limit).Keeps fun machine => machine.links = held := by
  unfold readFrame
  split
  · refine Keeps.bind Keeps.get fun machine => ?_
    split
    · exact fun _ before => before
    · refine Keeps.bind (reportAlarm_keeps _) fun _ => ?_
      split
      · exact fun _ before => before
      · exact Keeps.bind (modify_keeps fun _ => rfl) fun _ _ before => before
  · refine Keeps.bind Keeps.get fun machine => ?_
    split
    · exact fun _ before => before
    · split
      · exact fun _ before => before
      · refine Keeps.bind (modify_keeps fun _ => rfl) fun _ => Keeps.bind ?_ fun _ _ before => before
        exact Keeps.forM (fun index => modify_keeps ((unnoticed_transmit _).links_updateNic index)) _
  · exact fun _ before => before

theorem links_deliver (index : Nat) (frame : Bytes) (machine : Machine) :
    (machine.deliver index frame).links = machine.links := by
  unfold deliver
  split <;> rfl

theorem writeFrame_keeps (descriptor : Descriptor) (frame : Bytes) :
    (writeFrame descriptor frame).Keeps fun machine => machine.links = held := by
  unfold writeFrame
  split
  · refine Keeps.bind Keeps.get fun machine => ?_
    split
    · exact fun _ before => before
    · split
      · exact fun _ before => before
      · refine Keeps.bind (require_keeps _ _) fun _ => Keeps.bind (reportAlarm_keeps _) fun _ =>
          Keeps.bind (modify_keeps fun _ => rfl) fun _ => ?_
        refine .ite _ (Keeps.bind (modify_keeps ((unnoticed_loop frame).links_updateNic _)) fun _ _ before => before) ?_
        exact Keeps.bind (modify_keeps (links_deliver _ frame)) fun _ _ before => before
  · refine Keeps.bind Keeps.get fun machine => ?_
    split
    · exact fun _ before => before
    · refine Keeps.bind (require_keeps _ _) fun _ => Keeps.bind (require_keeps _ _) fun _ => ?_
      exact Keeps.bind (modify_keeps ((unnoticed_receive frame).links_updateNic _)) fun _ _ before => before
  · exact fun _ before => before

end

section

variable {name : Bytes} {index : Nat} {done : Nic → Machine → Prop} {failed : Errno → Machine → Prop}

theorem requireNic_ensures (found : ∀ nic, machine.nic? name = some nic → done nic machine)
    (missing : machine.nic? name = none → failed .noDevice machine) :
    (requireNic name).Ensures done failed machine := by
  refine (ensures_bind _ _).mpr (ensures_get.mpr ?_)
  split
  · exact found _ ‹_›
  · exact missing ‹_›

theorem requireNicAt_ensures (found : ∀ nic, machine.nicAt? index = some nic → done nic machine)
    (missing : machine.nicAt? index = none → failed .noDevice machine) :
    (requireNicAt index).Ensures done failed machine := by
  refine (ensures_bind _ _).mpr (ensures_get.mpr ?_)
  split
  · exact found _ ‹_›
  · exact missing ‹_›

theorem require_ensures {condition : Bool} {errno : Errno} {done : Unit → Machine → Prop}
    (granted : condition = true → done () machine) (refused : condition = false → failed errno machine) :
    (require condition errno).Ensures done failed machine := by
  unfold require
  cases condition with
  | true => exact granted rfl
  | false => exact refused rfl

end

theorem nicAt?_of_nic? {name : Bytes} {nic : Nic} (found : machine.nic? name = some nic) :
    ∃ other, machine.nicAt? nic.index = some other :=
  Option.isSome_iff_exists.mp (List.find?_isSome.mpr ⟨nic, List.mem_of_find?_eq_some found, by simp⟩)

theorem system_looks {call : Syscall} (looks : call.looks) : (system call).Leaves links := by
  intro held
  cases call with
  | link descriptor field call =>
    have asked (name : Bytes) : (requireNic name).Keeps fun machine => machine.links = held := fun machine before =>
      requireNic_ensures (fun _ _ => before) fun _ => before
    cases call with
    | getIndex => exact Keeps.bind (asked _) fun _ _ before => before
    | getFlags => exact Keeps.bind (asked _) fun _ _ before => before
    | _ => cases looks
  | openFile path =>
    refine Keeps.bind Keeps.get fun machine => ?_
    split <;> exact fun _ before => before
  | read descriptor limit => exact readFrame_keeps descriptor limit
  | write descriptor frame => exact writeFrame_keeps descriptor frame
  | _ => cases looks

theorem setFlags_ensures (name : Bytes) (flags : UInt16) :
    (setFlags name flags).Ensures
      (fun _ after => ∃ index, machine.links.index? name = some index
        ∧ machine.links.Switched after.links index (flags &&& Kernel.upFlag ≠ 0)) (fun _ _ => True) machine := by
  refine (ensures_bind _ _).mpr (requireNic_ensures (fun nic found => ?_) fun _ => trivial)
  obtain ⟨other, there⟩ := nicAt?_of_nic? found
  have changed := switched_setUp there (flags &&& Kernel.upFlag ≠ 0)
  have index : machine.links.index? name = some nic.index := by simp [links, found]
  simp only [ensures_bind, ensures_modify, ensures_ite]
  -- Telling the sockets changes nothing about the links.
  split <;> exact ⟨nic.index, index, changed⟩

theorem addIpv6_ensures (index : Nat) (addr : Ipv6) (prefixLength : UInt8) :
    (addIpv6 index addr prefixLength).Ensures
      (fun _ after => machine.links.takesPart index ∧ ∃ addrs, after.links = machine.links.assign index addrs)
      (fun _ _ => True) machine := by
  refine (ensures_bind _ _).mpr (requireNicAt_ensures (fun nic found => ?_) fun _ => trivial)
  refine (ensures_bind _ _).mpr (require_ensures (fun fits => ?_) fun _ => trivial)
  refine (ensures_bind _ _).mpr (require_ensures (fun _ => ?_) fun _ => trivial)
  have large : Nic.minIpv6Mtu ≤ nic.mtu := by simpa using (Bool.and_eq_true_iff.mp fits).1
  refine ⟨by simpa [links, found] using large, nic.ipv6 ++ [addr], ?_⟩
  let f : Nic → Nic := fun nic => { nic with ipv6 := nic.ipv6 ++ [addr] }
  change (machine.updateNic index f).links = _
  rw [links_updateNic_of_some (fun nic => show (f nic).name = nic.name from rfl) (fun _ => rfl) found]
  refine Links.ext rfl ?_ ?_ rfl
  all_goals exact Function.update_eq_self_iff.mpr (by simp [links, found, f])

theorem delIpv6_refused {index : Nat} {addr : Ipv6} (part : machine.links.takesPart index)
    (absent : addr ∉ machine.links.addresses index) :
    (delIpv6 index addr).Ensures (fun _ _ => False)
      (fun errno after => errno = .addressNotAvailable ∧ after.links = machine.links) machine := by
  refine (ensures_bind _ _).mpr (requireNicAt_ensures (fun nic found => ?_) fun missing => ?_)
  · refine (ensures_bind _ _).mpr (require_ensures (fun _ => ?_) fun small => ?_)
    · refine (ensures_bind _ _).mpr (require_ensures (fun member => ?_) fun _ => ⟨rfl, rfl⟩)
      exact absurd (by simpa using member) (by simpa [links, found] using absent)
    · simp [links, found] at part
      simp [part] at small
  · simp [links, missing] at part

theorem system_spares {call : Syscall} (spares : call.spares) (index : Nat) (held : List Ipv6) :
    (system call).Keeps fun machine => machine.links.Grounded index held := by
  intro machine before
  cases call with
  | close descriptor => exact grounded_closeDescriptor descriptor before
  | link descriptor field call =>
    cases call with
    | setAddress addr =>
      refine (ensures_bind _ _).mpr (requireNic_ensures (fun nic _ => ?_) fun _ => before)
      have sparing : Sparing fun nic => { nic with hasIpv4 := addr ≠ .unspecified } :=
        ⟨fun _ => rfl, fun _ => rfl, fun _ => List.Subset.refl _⟩
      exact sparing.grounded_updateNic nic.index before
    | setMtu mtu =>
      refine (ensures_bind _ _).mpr (requireNic_ensures (fun nic _ => ?_) fun _ => before)
      refine (ensures_bind _ _).mpr (require_ensures (fun _ => ?_) fun _ => before)
      exact (sparing_setMtu mtu).grounded_updateNic nic.index before
    | setMac mac =>
      refine (ensures_bind _ _).mpr (requireNic_ensures (fun nic _ => ?_) fun _ => before)
      refine (ensures_bind _ _).mpr (require_ensures (fun _ => ?_) fun _ => before)
      refine (ensures_bind _ _).mpr (require_ensures (fun _ => ?_) fun _ => before)
      refine (ensures_bind _ _).mpr (require_ensures (fun _ => ?_) fun _ => before)
      have sparing : Sparing fun nic => { nic with mac } := ⟨fun _ => rfl, fun _ => rfl, fun _ => List.Subset.refl _⟩
      exact sparing.grounded_updateNic nic.index before
    | _ => cases spares
  | _ => cases spares

/-- The machine does with IPv6 addresses as a system does that takes them from a link which goes down. -/
theorem flushing : Flushing system links where
  looks _ := system_looks
  index socket field machine := by
    refine (ensures_bind _ _).mpr (requireNic_ensures (fun nic found => ?_) fun _ => trivial)
    exact congrArg (Option.map Nic.index) found
  setFlags socket field flags machine := setFlags_ensures (fieldName field) flags
  addIpv6 socket index addr prefixLength machine := addIpv6_ensures index addr prefixLength
  absent socket index addr prefixLength machine := delIpv6_refused
  spares _ := system_spares

end VirtualLink.Machine
