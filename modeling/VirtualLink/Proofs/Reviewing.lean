import VirtualLink.Config.Review
import VirtualLink.Proofs.Registry

namespace VirtualLink

open Call

@[simp]
theorem Diagnostics.errors_append (first second : Diagnostics) :
    (first ++ second).errors = first.errors ++ second.errors :=
  rfl

variable {α : Type} {name : String} {entry : Entry} {taken : List (UInt32 × String)}

/-! When a part of a review finds no error. -/

theorem reviewField_errors {result : Checked α} : (reviewField name result).errors = [] ↔ ∃ a, result = .ok a := by
  cases result <;> simp [reviewField]

theorem reviewOptional_errors {read : String → Checked α} {given : Option String} :
    (reviewOptional name read given).errors = [] ↔ ∃ taken, given.mapM read = .ok taken := by
  cases given with
  | none => exact iff_of_true rfl ⟨none, rfl⟩
  | some text => rw [Checked.exists_mapM_some, reviewOptional, reviewField_errors]

theorem reviewMtu_errors {given : Option UInt32} :
    (reviewMtu name given).errors = [] ↔ ∃ taken, given.mapM checkMtu = .ok taken := by
  cases given with
  | none => exact iff_of_true rfl ⟨none, rfl⟩
  | some size => rw [Checked.exists_mapM_some, reviewMtu, reviewField_errors]

theorem reviewId_errors {id : Option UInt32} :
    (reviewId taken name id).errors = [] ↔ ∀ given, id = some given → given ∉ taken.map Prod.fst := by
  cases id with
  | none => simp [reviewId]
  | some id =>
    have early : taken.lookup id = none ↔ id ∉ taken.map Prod.fst := by
      rw [List.lookup_eq_none_iff]
      simp only [bne_iff_ne, List.mem_map]
      exact ⟨fun other ⟨holder, member, same⟩ => other holder member same.symm,
        fun absent holder member same => absent ⟨holder, member, same.symm⟩⟩
    simp only [Option.some.injEq, forall_eq', ← early]
    cases known : taken.lookup id <;> simp [reviewId, known]

theorem reviewCompanions_errors : (reviewCompanions name entry).errors = [] ↔ entry.Accompanied := by
  unfold reviewCompanions Entry.Accompanied
  cases entry.ipv4 with
  | none => cases entry.netmask <;> cases entry.broadcast <;> simp
  | some text => cases entry.netmask <;> simp

/-- What an entry needs to become an interface that a bring-up finds nothing wrong with. -/
structure Entry.Acceptable (name : String) (entry : Entry) : Prop where
  name : checkName name = .ok ()
  readable : entry.Readable
  accompanied : entry.Accompanied

theorem reviewEntry_errors :
    (reviewEntry taken name entry).errors = []
      ↔ (∀ given, entry.id = some given → given ∉ taken.map Prod.fst) ∧ entry.Acceptable name := by
  simp only [reviewEntry, Diagnostics.errors_append, List.append_eq_nil_iff, reviewField_errors, reviewOptional_errors,
    reviewMtu_errors, reviewId_errors, reviewCompanions_errors]
  constructor
  · rintro ⟨⟨⟨⟨⟨⟨⟨⟨⟨_, named⟩, fresh⟩, mac⟩, ipv4⟩, netmask⟩, broadcast⟩, ipv6⟩, mtu⟩, accompanied⟩
    exact ⟨fresh, named, ⟨mac, ipv4, netmask, broadcast, ipv6, mtu⟩, accompanied⟩
  · rintro ⟨fresh, named, ⟨mac, ipv4, netmask, broadcast, ipv6, mtu⟩, accompanied⟩
    exact ⟨⟨⟨⟨⟨⟨⟨⟨⟨(), named⟩, fresh⟩, mac⟩, ipv4⟩, netmask⟩, broadcast⟩, ipv6⟩, mtu⟩, accompanied⟩

/-- The ids that entries give, in order. -/
def explicitIds (entries : List (String × Entry)) : List UInt32 :=
  entries.filterMap fun named => named.2.id

/-- No id is given twice, and none that is known. -/
def Unused (known ids : List UInt32) : Prop :=
  ids.Nodup ∧ ∀ id ∈ ids, id ∉ known

theorem unused_cons {known ids : List UInt32} {id : UInt32} :
    Unused known (id :: ids) ↔ id ∉ known ∧ Unused (id :: known) ids := by
  unfold Unused
  rw [List.nodup_cons, List.forall_mem_cons]
  constructor
  · rintro ⟨⟨later, nodup⟩, fresh, rest⟩
    exact ⟨fresh, nodup, fun other member early =>
      (List.mem_cons.mp early).elim (fun same => later (same ▸ member)) (rest other member)⟩
  · rintro ⟨fresh, nodup, rest⟩
    exact ⟨⟨fun member => rest id member (List.mem_cons_self ..), nodup⟩, fresh, fun other member early =>
      rest other member (List.mem_cons_of_mem id early)⟩

theorem reviewEntries_errors {entries : List (String × Entry)} :
    (reviewEntries taken entries).errors = []
      ↔ Unused (taken.map Prod.fst) (explicitIds entries) ∧ ∀ named ∈ entries, named.2.Acceptable named.1 := by
  induction entries generalizing taken with
  | nil => simp [reviewEntries, explicitIds, Unused]
  | cons named rest ih =>
    obtain ⟨name, entry⟩ := named
    simp only [reviewEntries, Diagnostics.errors_append, List.append_eq_nil_iff, reviewEntry_errors, ih,
      List.forall_mem_cons]
    cases given : entry.id with
    | none =>
      have same : explicitIds ((name, entry) :: rest) = explicitIds rest := List.filterMap_cons_none given
      simp only [same, Option.map_none, Option.toList_none, List.nil_append, reduceCtorEq, false_imp_iff,
        implies_true, true_and]
      exact and_left_comm
    | some id =>
      have more : explicitIds ((name, entry) :: rest) = id :: explicitIds rest := List.filterMap_cons_some given
      simp only [more, unused_cons, Option.map_some, Option.toList_some, List.cons_append, List.nil_append,
        List.map_cons, Option.some.injEq, forall_eq', and_assoc]
      exact and_congr_right fun _ => and_left_comm

theorem Logging.review_errors (logging : Logging) : logging.review.errors = [] := by
  simp only [Logging.review, Diagnostics.errors_append]
  split <;> split <;> rfl

theorem Config.review_errors (config : Config) :
    config.review.errors = (reviewEntries [] config.interfaces).errors := by
  simp only [Config.review, Diagnostics.errors_append]
  cases config.logging with
  | none => simp
  | some logging => simp [Logging.review_errors]

/-- An interface is created from an entry if its name is accepted and the entry can be read. -/
theorem Interface.ofEntry_ok {root : RootId} {registry : Registry} {iface : Interface}
    (made : (Interface.ofEntry root name entry registry).result = .ok iface) :
    checkName name = .ok () ∧ entry.read {} = .ok iface.settings ∧ iface.isUp = false := by
  have ends : (Interface.ofEntry root name entry).Ensures
      (fun iface _ => checkName name = .ok () ∧ entry.read {} = .ok iface.settings ∧ iface.isUp = false)
      (fun _ _ => True) registry :=
    Interface.ofEntry_ensures entry (fun _ _ => trivial) (fun _ _ _ => trivial) fun _ named reads => ⟨named, reads, rfl⟩
  exact ends.of_ok made

/-- An entry is acceptable if and only if an interface can be created from it whose settings pass the check. -/
theorem Entry.acceptable_iff (root : RootId) (registry : Registry) :
    entry.Acceptable name ↔ ∃ iface, (Interface.ofEntry root name entry registry).result = .ok iface
      ∧ iface.settings.check = .ok () := by
  constructor
  · intro acceptable
    have made : (Interface.ofEntry root name entry).Ensures (fun iface _ => entry.read {} = .ok iface.settings)
        (fun _ _ => False) registry := by
      refine Interface.ofEntry_ensures entry (fun v broken => ?_) (fun v _ unread => ?_) fun settings _ reads => reads
      · exact absurd acceptable.name (by simp [broken])
      · obtain ⟨settings, reads⟩ := (Entry.exists_read_iff {}).mpr acceptable.readable
        exact absurd reads (by simp [unread])
    cases result : (Interface.ofEntry root name entry registry).result with
    | error error => exact (made.of_error result).elim
    | ok iface => exact ⟨iface, rfl, (Entry.check_iff_accompanied (made.of_ok result)).mpr acceptable.accompanied⟩
  · rintro ⟨iface, result, checked⟩
    obtain ⟨named, reads, _⟩ := Interface.ofEntry_ok result
    exact ⟨named, (Entry.exists_read_iff {}).mp ⟨_, reads⟩, (Entry.check_iff_accompanied reads).mp checked⟩

/-- With settings that pass the check, only the link can make a bring-up fail. -/
theorem Driven.up_result_of_check {σ : Type} (backend : Backend σ) {iface : Interface} (state : σ)
    (down : iface.isUp = false) (valid : iface.settings.check = .ok ()) :
    (Driven.up backend ⟨iface, state⟩).result
      = (Driven.bringUp backend (chosenMac iface) ⟨iface, state⟩).result.map fun _ => () := by
  have checked : (check (.ok ()) : Call Error (Driven σ) Unit) = fun driven => ⟨.ok (), driven, []⟩ := rfl
  simp only [Driven.up, Bind.bind, Call.bind, Driven.iface?, down, Bool.false_eq_true, if_false, valid, checked, log,
    Driven.update, Call.modify]
  rcases Driven.bringUp backend (chosenMac iface) ⟨iface, state⟩ with ⟨_ | _, _, _⟩ <;> rfl

/-- A review finds no error if and only if no id is given twice and every entry makes an interface whose settings pass
the check of a bring-up, so that a bring-up of it ends as its link does. What the configuration says about the log
makes no error. -/
theorem Config.review_accepts_iff (config : Config) (root : RootId) (registry : Registry) :
    (config.review.errors = [] ↔ (explicitIds config.interfaces).Nodup
        ∧ ∀ named ∈ config.interfaces, ∃ iface,
            (Interface.ofEntry root named.1 named.2 registry).result = .ok iface ∧ iface.settings.check = .ok ())
      ∧ (config.review.errors = [] → ∀ named ∈ config.interfaces, ∀ iface,
          (Interface.ofEntry root named.1 named.2 registry).result = .ok iface →
          ∀ (σ : Type) (backend : Backend σ) (state : σ), (Driven.up backend ⟨iface, state⟩).result
            = (Driven.bringUp backend (Driven.chosenMac iface) ⟨iface, state⟩).result.map fun _ => ())
      ∧ ∀ logging, { config with logging }.review.errors = config.review.errors := by
  have accepts : config.review.errors = [] ↔ (explicitIds config.interfaces).Nodup
      ∧ ∀ named ∈ config.interfaces, named.2.Acceptable named.1 := by
    rw [Config.review_errors, reviewEntries_errors]
    simp [Unused]
  refine ⟨?_, fun clean named member iface made σ backend state => ?_, fun logging => ?_⟩
  · rw [accepts]
    simp only [Entry.acceptable_iff root registry]
  · obtain ⟨_, reads, down⟩ := Interface.ofEntry_ok made
    have acceptable := (accepts.mp clean).2 named member
    exact Driven.up_result_of_check backend state down ((Entry.check_iff_accompanied reads).mpr acceptable.accompanied)
  · rw [Config.review_errors, Config.review_errors]

end VirtualLink
