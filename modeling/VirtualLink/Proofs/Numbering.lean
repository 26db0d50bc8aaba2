import Mathlib.Data.List.Nodup
import VirtualLink.Proofs.Reviewing

namespace VirtualLink

open Call

/-- Creates an interface from each entry, in order, up to the first that is refused. -/
def Interface.ofEntries (root : RootId) : List (String × Entry) → Call Error Registry (List Interface)
  | [] => pure []
  | named :: rest => do
    let iface ← ofEntry root named.1 named.2
    let others ← ofEntries root rest
    return iface :: others

/-- Creates a root and every interface of the configuration from it. -/
def Config.createAll (config : Config) (capacity : Nat) : Call Error Registry (List Interface) := do
  let root ← Registry.createRoot capacity
  Interface.ofEntries root config.interfaces

/-- The ids that a root gives to entries, if it gave out `drawn` before. -/
def idsFrom (drawn : Nat) (entries : List (String × Entry)) : List UInt32 :=
  entries.mapIdx fun place named => named.2.id.getD (UInt32.ofNat (drawn + place))

variable {registry : Registry} {root : RootId} {entries : List (String × Entry)}

theorem idsFrom_cons (drawn : Nat) (named : String × Entry) :
    idsFrom drawn (named :: entries) = named.2.id.getD (UInt32.ofNat drawn) :: idsFrom (drawn + 1) entries := by
  simp only [idsFrom, List.mapIdx_cons, Nat.add_zero, Nat.add_assoc, Nat.add_comm 1]

/-- Acceptable entries are all created, and the sequence of the root moves on with each, whether it needs an id or
not. -/
theorem Interface.ofEntries_ensures (known : root < registry.roots.length) {drawn : Nat}
    (next : (registry.root root).nextId = UInt32.ofNat drawn)
    (acceptable : ∀ named ∈ entries, named.2.Acceptable named.1) :
    (Interface.ofEntries root entries).Ensures (fun ifaces _ => ifaces.map Interface.id = idsFrom drawn entries)
      (fun _ _ => False) registry := by
  induction entries generalizing registry drawn with
  | nil => rfl
  | cons named rest ih =>
    obtain ⟨first, others⟩ := List.forall_mem_cons.mp acceptable
    refine (ensures_bind _ _).mpr (ofEntry_ensures named.2 (fun v broken => ?_) (fun v _ unread => ?_)
      fun settings _ _ => ?_)
    · exact absurd first.name (by simp [broken])
    · obtain ⟨settings, reads⟩ := (Entry.exists_read_iff {}).mpr first.readable
      exact absurd reads (by simp [unread])
    · have moved : ((registry.updateRoot root Root.enrolled).root root).nextId = UInt32.ofNat (drawn + 1) := by
        rw [Registry.root_updateRoot_self _ known, Root.enrolled, next, UInt32.ofNat_add]
        rfl
      refine (ensures_bind _ _).mpr ((ih (by simpa using known) moved others).mono (fun ifaces _ ids => ?_)
        fun _ _ never => never)
      rw [ensures_pure, List.map_cons, ids, idsFrom_cons, ← next]
      rfl

theorem getElem?_idsFrom (place : Nat) :
    (idsFrom 0 entries)[place]? = entries[place]?.map fun named => named.2.id.getD (UInt32.ofNat place) := by
  simp only [idsFrom, List.getElem?_mapIdx, Nat.zero_add]

theorem mem_explicitIds {place : Nat} {named : String × Entry} (here : entries[place]? = some named) {id : UInt32}
    (given : named.2.id = some id) : id ∈ explicitIds entries :=
  List.mem_filterMap.mpr ⟨named, List.mem_of_getElem? here, given⟩

/-- Of ids that are pairwise distinct no other entry gives the same. -/
theorem id_ne_of_distinct (distinct : (explicitIds entries).Nodup) {place place' : Nat} {named named' : String × Entry}
    (here : entries[place]? = some named) (there : entries[place']? = some named') (earlier : place < place')
    {id : UInt32} (given : named.2.id = some id) : named'.2.id ≠ some id := by
  obtain ⟨bound, rfl⟩ := List.getElem?_eq_some_iff.mp here
  obtain ⟨bound', rfl⟩ := List.getElem?_eq_some_iff.mp there
  have apart := List.pairwise_iff_getElem.mp (List.pairwise_filterMap.mp distinct) place place' bound bound' earlier
  exact fun given' => apart id given id given' rfl

/-- Ids coincide only if an entry without one stands at the place that another entry gives as its id. -/
theorem nodup_idsFrom_iff (distinct : (explicitIds entries).Nodup) (few : entries.length < UInt32.size) :
    (idsFrom 0 entries).Nodup ↔ ∀ place named, entries[place]? = some named → named.2.id = none →
      UInt32.ofNat place ∉ explicitIds entries := by
  have length : (idsFrom 0 entries).length = entries.length := List.length_mapIdx
  constructor
  · intro nodup place named here none explicit
    obtain ⟨holder, member, gives⟩ := List.mem_filterMap.mp explicit
    obtain ⟨place', there⟩ := List.mem_iff_getElem?.mp member
    have bound : place < (idsFrom 0 entries).length := length ▸ (List.getElem?_eq_some_iff.mp here).1
    have same : (idsFrom 0 entries)[place]? = (idsFrom 0 entries)[place']? := by
      simp only [getElem?_idsFrom, here, there, Option.map_some, none, gives, Option.getD_none, Option.getD_some]
    obtain rfl := (List.getElem?_inj bound nodup).mp same
    obtain rfl := Option.some.inj (here.symm.trans there)
    cases none.symm.trans gives
  · intro apart
    rw [List.nodup_iff_getElem?_ne_getElem?]
    intro place place' earlier bound' same
    rw [length] at bound'
    have here := List.getElem?_eq_getElem (Nat.lt_trans earlier bound')
    have there := List.getElem?_eq_getElem bound'
    simp only [getElem?_idsFrom, here, there, Option.map_some, Option.some.injEq] at same
    generalize entries[place] = named at here same
    generalize entries[place'] = named' at there same
    -- Two ids of the sequence differ by their places, two given ones by the review.
    cases given : named.2.id with
    | none =>
      cases given' : named'.2.id with
      | none =>
        rw [given, given', Option.getD_none, Option.getD_none] at same
        have places := congrArg UInt32.toNat same
        rw [UInt32.toNat_ofNat_of_lt' (by omega), UInt32.toNat_ofNat_of_lt' (by omega)] at places
        omega
      | some id' =>
        rw [given, given', Option.getD_none, Option.getD_some] at same
        exact apart place named here given (same ▸ mem_explicitIds there given')
    | some id =>
      rw [given, Option.getD_some] at same
      cases given' : named'.2.id with
      | none =>
        rw [given', Option.getD_none] at same
        exact apart place' named' there given' (same ▸ mem_explicitIds here given)
      | some id' =>
        rw [given', Option.getD_some] at same
        exact id_ne_of_distinct distinct here there earlier given (same ▸ given')

/-- A configuration without errors makes all its interfaces. An entry without an id gets its place in the order of
creation, and the ids are distinct if and only if no other entry gives that place as its id. -/
theorem Config.ids_distinct_iff {config : Config} (clean : config.review.errors = [])
    (few : config.interfaces.length < UInt32.size) {registry : Registry} (idle : registry.rootLive = false)
    (capacity : Nat) :
    ∃ ifaces, (config.createAll capacity registry).result = .ok ifaces
      ∧ ifaces.map Interface.id = idsFrom 0 config.interfaces
      ∧ ((ifaces.map Interface.id).Nodup ↔ ∀ place named, config.interfaces[place]? = some named →
          named.2.id = none → UInt32.ofNat place ∉ explicitIds config.interfaces) := by
  rw [Config.review_errors, reviewEntries_errors] at clean
  obtain ⟨⟨distinct, _⟩, acceptable⟩ := clean
  have made : (config.createAll capacity).Ensures
      (fun ifaces _ => ifaces.map Interface.id = idsFrom 0 config.interfaces) (fun _ _ => False) registry := by
    simp only [createAll, Registry.createRoot, ensures_bind, ensures_get, idle, Bool.false_eq_true, if_false,
      ensures_modify, ensures_log, ensures_pure]
    exact Interface.ofEntries_ensures (by simp) (by simp [Registry.root]) acceptable
  cases result : (config.createAll capacity registry).result with
  | error error => exact (made.of_error result).elim
  | ok ifaces =>
    have ids := made.of_ok result
    exact ⟨ifaces, rfl, ids, ids ▸ nodup_idsFrom_iff distinct few⟩

/-- The second of three entries gives an id. -/
def Config.spaced : Config where
  interfaces := [("a", { mtu := some 1500 }), ("b", { id := some 10, mtu := some 1500 }), ("c", { mtu := some 1500 })]

theorem Config.ids_distinct_iff_spaced :
    ∃ ifaces, (spaced.createAll defaultCapacity {}).result = .ok ifaces
      ∧ ifaces.map Interface.id = [0, 10, 2] ∧ (ifaces.map Interface.id).Nodup := by
  have clean : spaced.review.errors = [] := by decide +kernel
  have few : spaced.interfaces.length < UInt32.size := by decide
  have idle : ({} : Registry).rootLive = false := rfl
  obtain ⟨ifaces, made, ids, _⟩ := Config.ids_distinct_iff clean few idle defaultCapacity
  have numbered : ifaces.map Interface.id = [0, 10, 2] := ids
  exact ⟨ifaces, made, numbered, numbered ▸ by decide⟩

/-- The first entry leaves its id to the sequence, and the second gives the one that comes of it. -/
def Config.clashing : Config where
  interfaces := [("a", { mtu := some 1500 }), ("b", { id := some 0, mtu := some 1500 })]

/-- The review finds no error, and both interfaces get the same id. -/
theorem Config.reviewed_ids_coincide :
    clashing.review.errors = []
      ∧ (clashing.createAll defaultCapacity {}).result.toOption.map (List.map Interface.id) = some [0, 0] := by
  decide +kernel

end VirtualLink
