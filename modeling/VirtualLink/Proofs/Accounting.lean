import Mathlib.Data.List.Perm.Basic
import VirtualLink.Proofs.Registry
import VirtualLink.Proofs.Enduring

namespace VirtualLink

open Call

variable {ε σ : Type} {registry : Registry}

/-- Something that was taken from a root: a bare pool, or an interface with the backend that drives it. -/
inductive Tenant (σ : Type)
  | bare (pool : Pool)
  | driven (backend : Backend σ) (iface : Interface)

namespace Tenant

def held : Tenant σ → Pool
  | .bare pool => pool
  | .driven _ iface => iface.pool

/-- What of the tenant is left when its owner asks for an end of it. -/
def destroy (close : Queues → Except Errno Unit) : Tenant σ → Call Rejection Registry Unit
  | .bare pool => Registry.dropPool pool
  | .driven _ iface => Interface.destroy iface close

/-- What happens to a tenant that goes out of scope. -/
def drop : Tenant σ → Call ε (Registry × σ) Unit
  | .bare pool => (Registry.dropPool pool).zoom Prod.fst fun registry (_, world) => (registry, world)
  | .driven backend iface => Interface.drop backend iface

/-- What an action makes of an interface and its surroundings; a bare pool takes none. -/
def act (action : Action) (world : σ) : Tenant σ → Tenant σ × σ
  | .bare pool => (.bare pool, world)
  | .driven backend iface =>
    let reply := action.call backend ⟨iface, world⟩
    (.driven backend reply.state.iface, reply.state.backend)

theorem root_act (action : Action) (world : σ) (tenant : Tenant σ) :
    (tenant.act action world).1.held.root = tenant.held.root := by
  cases tenant with
  | bare pool => rfl
  | driven backend iface =>
    have same : (action.call backend ⟨iface, world⟩).state.iface.identity = iface.identity :=
      Driven.identity_run [action] ⟨iface, world⟩
    exact congrArg Interface.Identity.root same

/-- An interface that is up stays, and leaves the registry as it is. -/
theorem destroy_ensures (close : Queues → Except Errno Unit) (tenant : Tenant σ) :
    (tenant.destroy close).Ensures (fun _ after => after = registry.updateRoot tenant.held.root Root.returned)
      (fun _ after => after = registry) registry := by
  cases tenant with
  | bare pool => exact rfl
  | driven backend iface => exact iface.destroy_ensures close (fun _ => rfl) fun _ => rfl

theorem drop_registry (tenant : Tenant σ) (world : σ) :
    ((tenant.drop : Call ε (Registry × σ) Unit) (registry, world)).state.1
      = registry.updateRoot tenant.held.root Root.returned := by
  cases tenant with
  | bare pool => rfl
  | driven backend iface =>
    have dropped : (Interface.drop backend iface : Call ε (Registry × σ) Unit).Ensures
        (fun _ after => after.1 = registry.updateRoot iface.pool.root Root.returned)
        (fun _ after => after.1 = registry.updateRoot iface.pool.root Root.returned) (registry, world) := by
      unfold Interface.drop
      split
      · simp only [ensures_bind, ensures_get, ensures_logAll, ensures_modify]
        split
        · exact rfl
        · exact rfl
      · exact rfl
    exact ensures_state_iff.mp dropped

end Tenant

/-- A creation with an accepted name draws an id from the root, and takes a pool unless it fails nevertheless. -/
def Enrolls (root : RootId) (name : String) (id : Option UInt32) (creation : Call Error Registry Interface) : Prop :=
  ∀ registry, creation.Ensures
    (fun iface after => (checkName name).isOk ∧ iface.pool.root = root ∧ iface.id = id.getD (registry.root root).nextId
      ∧ after = registry.updateRoot root Root.enrolled)
    (fun _ after => after = if (checkName name).isOk then registry.updateRoot root Root.drawn else registry) registry

theorem Interface.create_enrolls (root : RootId) (name : String) (kind : Kind) (id : Option UInt32) :
    Enrolls root name id (Interface.create root name kind id) := by
  intro registry
  refine create_ensures kind id (fun v broken => ?_) fun accepted => ?_
  · rw [broken]
    rfl
  · exact ⟨by rw [accepted]; rfl, rfl, rfl, rfl⟩

theorem Interface.ofEntry_enrolls (root : RootId) (name : String) (entry : Entry) :
    Enrolls root name entry.id (Interface.ofEntry root name entry) := by
  intro registry
  refine ofEntry_ensures entry (fun v broken => ?_) (fun v accepted _ => ?_) fun settings accepted _ => ?_
  · rw [broken]
    rfl
  · rw [accepted]
    rfl
  · exact ⟨by rw [accepted]; rfl, rfl, rfl, rfl⟩

/-- All that a thread has taken from roots and not given up yet, with the root of each. -/
structure Estate (σ : Type) where
  registry : Registry := {}
  /-- Whatever the backends act upon. -/
  world : σ
  /-- The roots whose handles are held. -/
  roots : List RootId := []
  tenants : List (RootId × Tenant σ) := []
  /-- The interfaces that were to be created so far, each by its root and name, whatever became of it. -/
  creations : List (RootId × String) := []

/-- What a thread can do with roots and what is taken from them. Handles are named by their places. -/
inductive Dealing (σ : Type)
  | createRoot (capacity : Nat)
  | destroyRoot (handle : Nat)
  | dropRoot (handle : Nat)
  | createPool (handle : Nat)
  | create (handle : Nat) (backend : Backend σ) (name : String) (kind : Kind) (id : Option UInt32)
  | ofEntry (handle : Nat) (backend : Backend σ) (name : String) (entry : Entry)
  | destroy (tenant : Nat) (close : Queues → Except Errno Unit)
  | drop (tenant : Nat)
  | act (tenant : Nat) (action : Action)
  /-- What the backends act upon changes without the thread. -/
  | beside (world : σ)

namespace Estate

variable {estate : Estate σ}

/-- How many pools and interfaces of the root are left. -/
def dependents (estate : Estate σ) (root : RootId) : Nat :=
  (estate.tenants.map Prod.fst).count root

/-- How many interfaces were to be created from the root with a name that is accepted. -/
def draws (estate : Estate σ) (root : RootId) : Nat :=
  estate.creations.countP fun (creation : RootId × String) => creation.1 = root ∧ (checkName creation.2).isOk

/-- Takes down that an interface was to be created, and keeps it if it was. -/
def enroll (root : RootId) (backend : Backend σ) (name : String) (creation : Call Error Registry Interface)
    (estate : Estate σ) : Estate σ :=
  let reply := creation estate.registry
  { estate with
    registry := reply.state
    tenants := (reply.result.toOption.map fun iface => (root, .driven backend iface)).toList ++ estate.tenants
    creations := (root, name) :: estate.creations }

/-- Does nothing if there is no such handle. -/
def atRoot (estate : Estate σ) (handle : Nat) (act : RootId → Estate σ) : Estate σ :=
  estate.roots[handle]?.elim estate act

/-- Does nothing if there is no such tenant. -/
def atTenant (estate : Estate σ) (place : Nat) (act : RootId × Tenant σ → Estate σ) : Estate σ :=
  estate.tenants[place]?.elim estate act

def deal (estate : Estate σ) : Dealing σ → Estate σ
  | .createRoot capacity =>
    let reply := Registry.createRoot capacity estate.registry
    { estate with registry := reply.state, roots := reply.result.toOption.toList ++ estate.roots }
  | .destroyRoot handle => estate.atRoot handle fun root =>
    let reply := Registry.destroyRoot root estate.registry
    { estate with
      registry := reply.state
      roots := if reply.result.isOk then estate.roots.eraseIdx handle else estate.roots }
  | .dropRoot handle => estate.atRoot handle fun root =>
    let reply := (Registry.dropRoot root : Call Empty Registry Unit) estate.registry
    { estate with registry := reply.state, roots := estate.roots.eraseIdx handle }
  | .createPool handle => estate.atRoot handle fun root =>
    let reply := (Registry.takePool root : Call Empty Registry Pool) estate.registry
    { estate with
      registry := reply.state
      tenants := (reply.result.toOption.map fun pool => (root, .bare pool)).toList ++ estate.tenants }
  | .create handle backend name kind id => estate.atRoot handle fun root =>
    estate.enroll root backend name (Interface.create root name kind id)
  | .ofEntry handle backend name entry => estate.atRoot handle fun root =>
    estate.enroll root backend name (Interface.ofEntry root name entry)
  | .destroy place close => estate.atTenant place fun (_, tenant) =>
    let reply := tenant.destroy close estate.registry
    { estate with
      registry := reply.state
      tenants := if reply.result.isOk then estate.tenants.eraseIdx place else estate.tenants }
  | .drop place => estate.atTenant place fun (_, tenant) =>
    let reply := (tenant.drop : Call Empty (Registry × σ) Unit) (estate.registry, estate.world)
    { estate with registry := reply.state.1, world := reply.state.2, tenants := estate.tenants.eraseIdx place }
  | .act place action => estate.atTenant place fun (root, tenant) =>
    let (left, world) := tenant.act action estate.world
    { estate with world, tenants := estate.tenants.set place (root, left) }
  | .beside world => { estate with world }

def run (dealings : List (Dealing σ)) (estate : Estate σ) : Estate σ :=
  dealings.foldl deal estate

/-- What holds between the dealings of a thread. -/
structure Balanced (estate : Estate σ) : Prop where
  handles : estate.roots.length = estate.registry.rootLive.toNat
  known : ∀ root ∈ estate.roots, root < estate.registry.roots.length
  tenants : ∀ tenant ∈ estate.tenants, tenant.2.held.root = tenant.1 ∧ tenant.1 < estate.registry.roots.length
  creations : ∀ creation ∈ estate.creations, creation.1 < estate.registry.roots.length
  live : ∀ root, (estate.registry.root root).live = estate.dependents root
  nextId : ∀ root, (estate.registry.root root).nextId = UInt32.ofNat (estate.draws root)

theorem dependents_eraseIdx {place : Nat} {root : RootId} {tenant : Tenant σ}
    (here : estate.tenants[place]? = some (root, tenant)) (other : RootId) :
    estate.dependents other
      = ((estate.tenants.eraseIdx place).map Prod.fst).count other + if root = other then 1 else 0 := by
  obtain ⟨bound, found⟩ := List.getElem?_eq_some_iff.mp here
  have order := ((List.getElem_cons_eraseIdx_perm bound).map Prod.fst).count_eq other
  rw [List.map_cons, found, List.count_cons] at order
  simpa [dependents] using order.symm

namespace Balanced

/-- A change of one root keeps the balance if the tenants and the creations make up for it. -/
theorem update (balanced : estate.Balanced) {root : RootId} (known : root < estate.registry.roots.length)
    (f : Root → Root) {world : σ} {tenants : List (RootId × Tenant σ)} {creations : List (RootId × String)}
    (held : ∀ tenant ∈ tenants, tenant.2.held.root = tenant.1 ∧ tenant.1 < estate.registry.roots.length)
    (created : ∀ creation ∈ creations, creation.1 < estate.registry.roots.length)
    (live : (f (estate.registry.root root)).live = (tenants.map Prod.fst).count root)
    (nextId : (f (estate.registry.root root)).nextId = UInt32.ofNat ({ estate with creations }.draws root))
    (otherTenants : ∀ other, root ≠ other → (tenants.map Prod.fst).count other = estate.dependents other)
    (otherDraws : ∀ other, root ≠ other → { estate with creations }.draws other = estate.draws other) :
    Balanced { estate with registry := estate.registry.updateRoot root f, world, tenants, creations } where
  handles := balanced.handles
  known other member := (Registry.length_updateRoot f).symm ▸ balanced.known other member
  tenants tenant member := (Registry.length_updateRoot f).symm ▸ held tenant member
  creations creation member := (Registry.length_updateRoot f).symm ▸ created creation member
  live other := by
    by_cases same : root = other
    · subst same
      rw [Registry.root_updateRoot_self f known]
      exact live
    · rw [Registry.root_updateRoot_of_ne f same, balanced.live]
      exact (otherTenants other same).symm
  nextId other := by
    by_cases same : root = other
    · subst same
      rw [Registry.root_updateRoot_self f known]
      exact nextId
    · rw [Registry.root_updateRoot_of_ne f same, balanced.nextId]
      exact congrArg UInt32.ofNat (otherDraws other same).symm

theorem draws_cons (root : RootId) (name : String) (other : RootId) :
    { estate with creations := (root, name) :: estate.creations }.draws other
      = estate.draws other + if root = other ∧ (checkName name).isOk then 1 else 0 := by
  simp [draws, List.countP_cons]

/-- A tenant that goes gives its root one pool back. -/
theorem leave (balanced : estate.Balanced) {place : Nat} {root : RootId} {tenant : Tenant σ}
    (here : estate.tenants[place]? = some (root, tenant)) (world : σ) :
    Balanced { estate with
      registry := estate.registry.updateRoot tenant.held.root Root.returned
      world, tenants := estate.tenants.eraseIdx place } := by
  obtain ⟨rooted, known⟩ := balanced.tenants _ (List.mem_of_getElem? here)
  rw [rooted]
  refine balanced.update known Root.returned
    (fun other member => balanced.tenants other (List.mem_of_mem_eraseIdx member)) balanced.creations ?_
    (balanced.nextId root) (fun other different => ?_) fun _ _ => rfl
  · have count := dependents_eraseIdx here root
    rw [if_pos rfl, ← balanced.live] at count
    simp only [Root.returned, count, Nat.add_sub_cancel]
  · have count := dependents_eraseIdx here other
    rw [if_neg different] at count
    exact count.symm

/-- A tenant that stays with its root counts as before. -/
theorem replace (balanced : estate.Balanced) {place : Nat} {root : RootId} {tenant left : Tenant σ}
    (here : estate.tenants[place]? = some (root, tenant)) (stays : left.held.root = tenant.held.root) (world : σ) :
    Balanced { estate with world, tenants := estate.tenants.set place (root, left) } := by
  obtain ⟨bound, found⟩ := List.getElem?_eq_some_iff.mp here
  have same : (estate.tenants.set place (root, left)).map Prod.fst = estate.tenants.map Prod.fst := by
    have key : (estate.tenants.map Prod.fst)[place]? = some root := by rw [List.getElem?_map, here]; rfl
    obtain ⟨inside, there⟩ := List.getElem?_eq_some_iff.mp key
    rw [List.map_set, ← there, List.set_getElem_self]
  refine
    ⟨balanced.handles, balanced.known, fun other member => ?_, balanced.creations, fun other => ?_, balanced.nextId⟩
  · rcases List.mem_or_eq_of_mem_set member with before | rfl
    · exact balanced.tenants other before
    · obtain ⟨rooted, known⟩ := balanced.tenants _ (List.mem_of_getElem? here)
      exact ⟨stays.trans rooted, known⟩
  · rw [balanced.live]
    exact congrArg (List.count other) same.symm

/-- Nothing was taken from a root that is not there yet. -/
theorem unknown (balanced : estate.Balanced) : estate.dependents estate.registry.roots.length = 0
    ∧ estate.draws estate.registry.roots.length = 0 := by
  constructor
  · refine List.count_eq_zero.mpr fun member => ?_
    obtain ⟨tenant, held, same⟩ := List.mem_map.mp member
    exact absurd (balanced.tenants tenant held).2 (by rw [same]; exact Nat.lt_irrefl _)
  · refine List.countP_eq_zero.mpr fun creation member => ?_
    have below := balanced.creations creation member
    simp [Nat.ne_of_lt below]

theorem createRoot (balanced : estate.Balanced) (capacity : Nat) : (estate.deal (.createRoot capacity)).Balanced := by
  simp only [deal, Registry.createRoot_eq]
  split
  · exact balanced
  · rename_i idle
    have single : estate.roots = [] := by
      rw [← List.length_eq_zero_iff, balanced.handles, Bool.eq_false_iff.mpr idle]
      rfl
    have longer {place : Nat} (bound : place < estate.registry.roots.length) :
        place < (estate.registry.roots ++ [({ capacity } : Root)]).length := by
      rw [List.length_append]
      exact Nat.lt_add_right _ bound
    refine ⟨?_, ?_, fun tenant member => ?_, fun creation member => longer (balanced.creations creation member),
      fun root => ?_, fun root => ?_⟩
    · simp [single, Except.toOption]
    · simp [single, Except.toOption]
    · exact (balanced.tenants tenant member).imp_right longer
    · change (Registry.root ⟨true, _⟩ root).live = estate.dependents root
      rw [Registry.root_append]
      split
      · rename_i fresh
        exact (fresh ▸ balanced.unknown.1).symm
      · exact balanced.live root
    · change (Registry.root ⟨true, _⟩ root).nextId = UInt32.ofNat (estate.draws root)
      rw [Registry.root_append]
      split
      · rename_i fresh
        rw [fresh, balanced.unknown.2]
        rfl
      · exact balanced.nextId root

/-- A root that is given up goes on counting what was taken from it. -/
theorem giveUp (balanced : estate.Balanced) {handle : Nat} {root : RootId} (here : estate.roots[handle]? = some root) :
    Balanced { estate with
      registry := { estate.registry with rootLive := false }
      roots := estate.roots.eraseIdx handle } where
  handles := by
    have bound := (List.getElem?_eq_some_iff.mp here).1
    have single := Bool.toNat_le estate.registry.rootLive
    rw [← balanced.handles] at single
    rw [List.length_eraseIdx, if_pos bound]
    simp only [Bool.toNat_false]
    omega
  known other member := balanced.known other (List.mem_of_mem_eraseIdx member)
  tenants := balanced.tenants
  creations := balanced.creations
  live := balanced.live
  nextId := balanced.nextId

/-- A tenant is entered with its root. -/
theorem enter (balanced : estate.Balanced) {root : RootId} (member : root ∈ estate.roots) {tenant : Tenant σ}
    (rooted : tenant.held.root = root) {f : Root → Root} {creations : List (RootId × String)}
    (created : ∀ creation ∈ creations, creation.1 < estate.registry.roots.length)
    (live : ∀ root, (f root).live = root.live + 1)
    (nextId : (f (estate.registry.root root)).nextId = UInt32.ofNat ({ estate with creations }.draws root))
    (otherDraws : ∀ other, root ≠ other → { estate with creations }.draws other = estate.draws other) :
    Balanced { estate with
      registry := estate.registry.updateRoot root f
      tenants := (root, tenant) :: estate.tenants
      creations } := by
  have known := balanced.known root member
  refine balanced.update known f ?_ created ?_ nextId (fun other different => ?_) otherDraws
  · exact List.forall_mem_cons.mpr ⟨⟨rooted, known⟩, balanced.tenants⟩
  · rw [live, balanced.live, List.map_cons, List.count_cons_self]
    rfl
  · rw [List.map_cons, List.count_cons_of_ne different]
    rfl

theorem enroll (balanced : estate.Balanced) {root : RootId} (member : root ∈ estate.roots) {backend : Backend σ}
    {name : String} {id : Option UInt32} {creation : Call Error Registry Interface}
    (enrolls : Enrolls root name id creation) : (estate.enroll root backend name creation).Balanced := by
  have known := balanced.known root member
  have created : ∀ creation ∈ (root, name) :: estate.creations, creation.1 < estate.registry.roots.length :=
    List.forall_mem_cons.mpr ⟨known, balanced.creations⟩
  have others (other : RootId) (different : root ≠ other) :
      { estate with creations := (root, name) :: estate.creations }.draws other = estate.draws other := by
    rw [draws_cons, if_neg fun same => different same.1, Nat.add_zero]
  have next (accepted : (checkName name).isOk = true) : (estate.registry.root root).nextId + 1
      = UInt32.ofNat ({ estate with creations := (root, name) :: estate.creations }.draws root) := by
    rw [draws_cons, if_pos ⟨rfl, accepted⟩, balanced.nextId, UInt32.ofNat_add]
    rfl
  have ends := enrolls estate.registry
  unfold Estate.enroll
  cases result : (creation estate.registry).result with
  | ok iface =>
    obtain ⟨accepted, rooted, _, after⟩ := ends.of_ok result
    have held : (Tenant.driven backend iface).held.root = root := rooted
    simp only [after, result]
    exact balanced.enter member held created (fun _ => rfl) (next accepted) others
  | error error =>
    have after := ends.of_error result
    simp only [after, result]
    split
    · rename_i accepted
      exact balanced.update known Root.drawn balanced.tenants created (balanced.live root) (next accepted)
        (fun _ _ => rfl) others
    · rename_i refused
      have same (other : RootId) :
          { estate with creations := (root, name) :: estate.creations }.draws other = estate.draws other := by
        rw [draws_cons, if_neg fun accepted => refused accepted.2, Nat.add_zero]
      exact ⟨balanced.handles, balanced.known, balanced.tenants, created, balanced.live, fun other =>
        (balanced.nextId other).trans (congrArg UInt32.ofNat (same other).symm)⟩

theorem atRoot (balanced : estate.Balanced) {handle : Nat} {act : RootId → Estate σ}
    (kept : ∀ root, estate.roots[handle]? = some root → (act root).Balanced) : (estate.atRoot handle act).Balanced := by
  unfold Estate.atRoot
  cases here : estate.roots[handle]? with
  | none => exact balanced
  | some root => exact kept root here

theorem atTenant (balanced : estate.Balanced) {place : Nat} {act : RootId × Tenant σ → Estate σ}
    (kept : ∀ root tenant, estate.tenants[place]? = some (root, tenant) → (act (root, tenant)).Balanced) :
    (estate.atTenant place act).Balanced := by
  unfold Estate.atTenant
  cases here : estate.tenants[place]? with
  | none => exact balanced
  | some occupied => exact kept occupied.1 occupied.2 here

/-- Every dealing keeps the balance. -/
theorem deal (balanced : estate.Balanced) : ∀ dealing : Dealing σ, (estate.deal dealing).Balanced
  | .createRoot capacity => balanced.createRoot capacity
  | .destroyRoot handle => balanced.atRoot fun root here => by
    simp only [Registry.destroyRoot_eq]
    split
    · exact balanced.giveUp here
    · exact balanced
  | .dropRoot handle => balanced.atRoot fun root here => by
    simp only [Registry.dropRoot_state]
    exact balanced.giveUp here
  | .createPool handle => balanced.atRoot fun root here =>
    have rooted : (Tenant.bare ⟨root, (estate.registry.root root).capacity, [], none⟩ : Tenant σ).held.root = root :=
      rfl
    balanced.enter (List.mem_of_getElem? here) rooted balanced.creations (fun _ => rfl) (balanced.nextId root)
      fun _ _ => rfl
  | .create handle backend name kind id => balanced.atRoot fun root here =>
    balanced.enroll (List.mem_of_getElem? here) (Interface.create_enrolls root name kind id)
  | .ofEntry handle backend name entry => balanced.atRoot fun root here =>
    balanced.enroll (List.mem_of_getElem? here) (Interface.ofEntry_enrolls root name entry)
  | .destroy place close => balanced.atTenant fun root tenant here => by
    have ends : (tenant.destroy close).Ensures _ _ estate.registry := tenant.destroy_ensures close
    cases result : (tenant.destroy close estate.registry).result with
    | ok =>
      have after := ends.of_ok result
      simp only [after, result]
      exact balanced.leave here estate.world
    | error rejection =>
      have after := ends.of_error result
      simp only [after, result]
      exact balanced
  | .drop place => balanced.atTenant fun root tenant here => by
    simp only [Tenant.drop_registry]
    exact balanced.leave here _
  | .act place action => balanced.atTenant fun root tenant here =>
    balanced.replace here (tenant.root_act action estate.world) _
  | .beside world =>
    ⟨balanced.handles, balanced.known, balanced.tenants, balanced.creations, balanced.live, balanced.nextId⟩

theorem start (world : σ) : Balanced ({ world } : Estate σ) where
  handles := rfl
  known := by simp
  tenants := by simp
  creations := by simp
  live _ := rfl
  nextId _ := rfl

theorem run (balanced : estate.Balanced) (dealings : List (Dealing σ)) : (estate.run dealings).Balanced := by
  induction dealings generalizing estate with
  | nil => exact balanced
  | cons dealing rest ih => exact ih (balanced.deal dealing)

end Balanced

/-- After any dealings at most one root has a handle, and another can be created only if none has. A root counts the
pools and interfaces that were taken from it and are left, so that each of these is counted, and it can be destroyed
if and only if there are none; a refusal changes nothing. An interface without an id of its own gets as its id how
many interfaces were to be created before from the root with an accepted name, as far as 32 bits go. -/
theorem accounts_exact (world : σ) (dealings : List (Dealing σ)) :
    let estate := Estate.run dealings { world }
    let registry := estate.registry
    (estate.roots.length ≤ 1
        ∧ ∀ capacity, (Registry.createRoot capacity registry).result.isOk = true ↔ estate.roots = [])
      ∧ (∀ root, (registry.root root).live = estate.dependents root)
      ∧ (∀ root tenant, (root, tenant) ∈ estate.tenants →
          tenant.held.root = root ∧ 0 < (registry.root tenant.held.root).live)
      ∧ (∀ root ∈ estate.roots, Registry.destroyRoot root registry = if estate.dependents root = 0
          then ⟨.ok (), { registry with rootLive := false }, [.rootDestroyed]⟩
          else ⟨.error (.poolsLive (estate.dependents root)), registry, []⟩)
      ∧ (∀ root name kind id iface, (Interface.create root name kind id registry).result = .ok iface →
          iface.id = id.getD (UInt32.ofNat (estate.draws root)))
      ∧ ∀ root name entry iface, (Interface.ofEntry root name entry registry).result = .ok iface →
          iface.id = entry.id.getD (UInt32.ofNat (estate.draws root)) := by
  intro estate registry
  have balanced : estate.Balanced := (Balanced.start world).run dealings
  have numbered {root : RootId} {name : String} {id : Option UInt32} {creation : Call Error Registry Interface}
      (enrolls : Enrolls root name id creation) {iface : Interface} (made : (creation registry).result = .ok iface) :
      iface.id = id.getD (UInt32.ofNat (estate.draws root)) := by
    obtain ⟨_, _, drawn, _⟩ := (enrolls registry).of_ok made
    rw [drawn, balanced.nextId]
  refine ⟨⟨?_, fun capacity => ?_⟩, balanced.live, fun root tenant member => ?_, fun root member => ?_,
    fun root name kind id iface => numbered (Interface.create_enrolls root name kind id),
    fun root name entry iface => numbered (Interface.ofEntry_enrolls root name entry)⟩
  · exact balanced.handles ▸ Bool.toNat_le _
  · rw [← List.length_eq_zero_iff, balanced.handles, Registry.createRoot_eq]
    cases registry.rootLive <;> simp [Except.isOk, Except.toBool]
  · obtain ⟨rooted, _⟩ := balanced.tenants _ member
    refine ⟨rooted, ?_⟩
    rw [rooted, balanced.live]
    exact List.count_pos_iff.mpr (List.mem_map_of_mem member)
  · rw [Registry.destroyRoot_eq, balanced.live]

end Estate

end VirtualLink
