import VirtualLink.Proofs.MemoryLink.Granting

namespace VirtualLink

/-- After the first request it does not matter any more whether the second was granted before. -/
inductive Request.Undoes : Request → Request → Prop
  | mac (old new : Mac) : Undoes (.setMac old) (.setMac new)
  | mtu (old new : UInt32) : Undoes (.setMtu old) (.setMtu new)
  | ipv4 (addr : Ipv4) : Undoes .clearIpv4 (.setIpv4 addr)
  | netmask (mask : Ipv4) : Undoes .clearIpv4 (.setNetmask mask)
  | broadcast (addr : Ipv4) : Undoes .clearIpv4 (.setBroadcast addr)
  | ipv6 (addr : Ipv6) (prefixLength : UInt8) : Undoes (.delIpv6 addr prefixLength) (.addIpv6 addr prefixLength)

/-- What takes back a step of a bring-up that found the link in this state. -/
inductive Request.TakesBack (found : LinkState) : Request → Prop
  | mac : TakesBack found (.setMac found.mac)
  | mtu : TakesBack found (.setMtu found.mtu)
  | ipv4 : TakesBack found .clearIpv4
  | ipv6 (addr : Ipv6) (prefixLength : UInt8) : TakesBack found (.delIpv6 addr prefixLength)

theorem Request.TakesBack.op_ne {found : LinkState} {undo : Request} (takesBack : undo.TakesBack found) :
    undo.op ≠ .setIpv4 ∧ undo.op ≠ .addIpv6 := by
  cases takesBack <;> simp [op]

namespace LinkState

theorem apply_undone {undo change : Request} (undoes : undo.Undoes change) (state : LinkState) :
    (state.apply change).apply undo = state.apply undo := by
  cases undoes <;> simp [apply]

/-- A request and what takes back another one can change places. -/
theorem apply_comm {found : LinkState} {undo other change : Request} (takesBack : undo.TakesBack found)
    (undoes : other.Undoes change) (apart : ¬ undo.Undoes change) (state : LinkState) :
    (state.apply change).apply undo = (state.apply undo).apply change := by
  cases takesBack with
  | mac =>
    cases undoes with
    | mac => exact absurd (.mac ..) apart
    | _ => rfl
  | mtu =>
    cases undoes with
    | mtu => exact absurd (.mtu ..) apart
    | _ => rfl
  | ipv4 =>
    cases undoes with
    | ipv4 => exact absurd (.ipv4 ..) apart
    | netmask => exact absurd (.netmask ..) apart
    | broadcast => exact absurd (.broadcast ..) apart
    | _ => rfl
  | ipv6 gone goneLength =>
    cases undoes with
    | ipv6 addr prefixLength =>
      have differ : (addr, prefixLength) ≠ (gone, goneLength) := by
        rintro ⟨⟩
        exact apart (.ipv6 ..)
      simp [apply, differ]
    | _ => rfl

theorem applyAll_undone {found : LinkState} {undo : List Request} {change : Request}
    (takeBack : ∀ u ∈ undo, u.TakesBack found) (covered : ∃ u ∈ undo, u.Undoes change) (state : LinkState) :
    (state.apply change).applyAll undo = state.applyAll undo := by
  induction undo generalizing state with
  | nil => simp at covered
  | cons first rest ih =>
    change ((state.apply change).apply first).applyAll rest = (state.apply first).applyAll rest
    by_cases undoes : first.Undoes change
    · rw [apply_undone undoes]
    · -- The change passes this request and meets a later one that undoes it.
      obtain ⟨u, member, undoesLater⟩ := covered
      have later : u ∈ rest := by
        rcases List.mem_cons.mp member with rfl | later
        · exact absurd undoesLater undoes
        · exact later
      rw [apply_comm (takeBack first (List.mem_cons_self ..)) undoesLater undoes]
      exact ih (fun u member => takeBack u (List.mem_cons_of_mem _ member)) ⟨u, later, undoesLater⟩ _

/-- Taking requests back that were granted comes to the same as taking them back though they never were. -/
theorem applyAll_applyAll_undone {found : LinkState} {undo changes : List Request}
    (takeBack : ∀ u ∈ undo, u.TakesBack found) (covered : ∀ change ∈ changes, ∃ u ∈ undo, u.Undoes change)
    (state : LinkState) : (state.applyAll changes).applyAll undo = state.applyAll undo := by
  induction changes generalizing state with
  | nil => rfl
  | cons change rest ih =>
    change ((state.apply change).applyAll rest).applyAll undo = _
    rw [ih fun later member => covered later (List.mem_cons_of_mem _ member)]
    exact applyAll_undone takeBack (covered change (List.mem_cons_self ..)) state

theorem grantAll_grantAll_undone {found : LinkState} {undo changes : List Request}
    (takeBack : ∀ u ∈ undo, u.TakesBack found) (covered : ∀ change ∈ changes, ∃ u ∈ undo, u.Undoes change)
    (state : LinkState) :
    (state.grantAll changes).grantAll undo =
      { state.applyAll undo with log := state.log ++ (changes ++ undo).map Request.op } := by
  rw [← grantAll_append, grantAll_eq, ← applyAll_applyAll_undone takeBack covered]
  unfold applyAll
  rw [List.foldl_append]

/-- Of what was found, taking back spares all but the addresses that it removes. -/
theorem applyAll_takesBack {found : LinkState} {undo : List Request} (takeBack : ∀ u ∈ undo, u.TakesBack found) :
    found.applyAll undo =
      { found with
        ipv4 := if .clearIpv4 ∈ undo then none else found.ipv4
        netmask := if .clearIpv4 ∈ undo then none else found.netmask
        broadcast := if .clearIpv4 ∈ undo then none else found.broadcast
        ipv6 := found.ipv6.filter fun entry => .delIpv6 entry.1 entry.2 ∉ undo } := by
  -- The requests give back what was found, while the induction changes the state that they are made in.
  suffices general : ∀ state : LinkState, state.mac = found.mac → state.mtu = found.mtu →
      state.applyAll undo =
        { state with
          ipv4 := if .clearIpv4 ∈ undo then none else state.ipv4
          netmask := if .clearIpv4 ∈ undo then none else state.netmask
          broadcast := if .clearIpv4 ∈ undo then none else state.broadcast
          ipv6 := state.ipv6.filter fun entry => .delIpv6 entry.1 entry.2 ∉ undo } from
    general found rfl rfl
  induction undo with
  | nil =>
    intro state _ _
    have whole : state.ipv6.filter (fun entry => Request.delIpv6 entry.1 entry.2 ∉ []) = state.ipv6 :=
      List.filter_eq_self.mpr (by simp)
    rw [whole]
    simp only [List.not_mem_nil, if_false]
    rfl
  | cons first rest ih =>
    intro state mac mtu
    have later := ih fun u member => takeBack u (List.mem_cons_of_mem _ member)
    change (state.apply first).applyAll rest = _
    cases takeBack first (List.mem_cons_self ..) with
    | mac =>
      have same : state.apply (.setMac found.mac) = state := by rw [← mac]; rfl
      rw [same, later state mac mtu]
      simp
    | mtu =>
      have same : state.apply (.setMtu found.mtu) = state := by rw [← mtu]; rfl
      rw [same, later state mac mtu]
      simp
    | ipv4 =>
      rw [later (state.apply .clearIpv4) mac mtu]
      simp [apply]
    | ipv6 addr prefixLength =>
      have filtered : (state.ipv6.filter (· ≠ (addr, prefixLength))).filter
            (fun entry => .delIpv6 entry.1 entry.2 ∉ rest)
          = state.ipv6.filter fun entry => .delIpv6 entry.1 entry.2 ∉ .delIpv6 addr prefixLength :: rest := by
        rw [List.filter_filter]
        refine List.filter_congr ?_
        rintro ⟨other, otherLength⟩ _
        simp [and_comm]
      rw [later (state.apply (.delIpv6 addr prefixLength)) mac mtu, ← filtered]
      simp [apply]

end LinkState

end VirtualLink
