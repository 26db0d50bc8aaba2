import VirtualLink.Proofs.Reading

namespace VirtualLink

open Call

variable {ε : Type} {registry : Registry} {root other : RootId}

/-- A root that an interface with an id was taken from. -/
def Root.enrolled (root : Root) : Root :=
  { root with live := root.live + 1, nextId := root.nextId + 1 }

/-- A root that gave an id to an interface which did not last. -/
def Root.drawn (root : Root) : Root :=
  { root with nextId := root.nextId + 1 }

/-- A root that a pool came back to. -/
def Root.returned (root : Root) : Root :=
  { root with live := root.live - 1 }

namespace Registry

@[simp]
theorem length_updateRoot (f : Root → Root) :
    (registry.updateRoot root f).roots.length = registry.roots.length :=
  List.length_modify ..

theorem root_updateRoot (f : Root → Root) :
    (registry.updateRoot root f).root other
      = if root = other ∧ root < registry.roots.length then f (registry.root other) else registry.root other := by
  simp only [Registry.root, updateRoot, List.getElem?_modify]
  split
  · rename_i same
    subst same
    by_cases known : root < registry.roots.length
    · simp [known]
    · simp [known]
  · rename_i different
    simp [different]

theorem root_updateRoot_self (f : Root → Root) (known : root < registry.roots.length) :
    (registry.updateRoot root f).root root = f (registry.root root) := by
  rw [root_updateRoot, if_pos ⟨rfl, known⟩]

theorem root_updateRoot_of_ne (f : Root → Root) (different : root ≠ other) :
    (registry.updateRoot root f).root other = registry.root other := by
  rw [root_updateRoot, if_neg fun same => different same.1]

theorem root_append (live : Bool) (fresh : Root) :
    (⟨live, registry.roots ++ [fresh]⟩ : Registry).root other
      = if other = registry.roots.length then fresh else registry.root other := by
  simp only [Registry.root, List.getElem?_append]
  split
  · rename_i below
    rw [if_neg (Nat.ne_of_lt below)]
  · rename_i above
    split
    · rename_i last
      simp [last]
    · rename_i beyond
      have past : registry.roots.length < other := Nat.lt_of_le_of_ne (Nat.le_of_not_lt above) (Ne.symm beyond)
      rw [List.getElem?_eq_none (Nat.le_of_lt past), List.getElem?_eq_none (Nat.le_sub_of_add_le' past)]

theorem updateRoot_updateRoot (f g : Root → Root) :
    (registry.updateRoot root f).updateRoot root g = registry.updateRoot root (g ∘ f) := by
  simp only [updateRoot, List.modify_modify_eq]

theorem capacity_drawn :
    ((registry.updateRoot root Root.drawn).root root).capacity = (registry.root root).capacity := by
  rw [root_updateRoot]
  split <;> rfl

/-- A root is created if and only if no handle of another is alive. -/
theorem createRoot_eq (capacity : Nat) :
    createRoot capacity registry = if registry.rootLive then ⟨.error .rootPoolLive, registry, []⟩ else
      ⟨.ok registry.roots.length, { rootLive := true, roots := registry.roots ++ [{ capacity }] },
        [.rootCreated capacity]⟩ := by
  change (if registry.rootLive then fail .rootPoolLive else _ : Call Error Registry RootId) registry = _
  split <;> rfl

theorem dropRoot_state :
    ((dropRoot root : Call ε Registry Unit) registry).state = { registry with rootLive := false } := by
  change ((if _ > 0 then log _ else pure () : Call ε Registry Unit) { registry with rootLive := false }).state = _
  split <;> rfl

/-- A root is destroyed if and only if nothing that was taken from it is left. -/
theorem destroyRoot_eq :
    destroyRoot root registry = if (registry.root root).live = 0
      then ⟨.ok (), { registry with rootLive := false }, [.rootDestroyed]⟩
      else ⟨.error (.poolsLive (registry.root root).live), registry, []⟩ := by
  change (if (registry.root root).live > 0 then fail (.poolsLive (registry.root root).live) else _ :
    Call Rejection Registry Unit) registry = _
  split
  · rename_i busy
    rw [if_neg (Nat.pos_iff_ne_zero.mp busy)]
    rfl
  · rename_i free
    have dropped : (dropRoot root : Call Rejection Registry Unit) registry
        = ⟨.ok (), { registry with rootLive := false }, []⟩ := by
      change (if (registry.root root).live > 0 then log _ else pure () : Call Rejection Registry Unit) _ = _
      rw [if_neg free]
      rfl
    rw [if_pos (Nat.eq_zero_of_not_pos free)]
    change Call.bind (dropRoot root) (fun _ => log .rootDestroyed) registry = _
    simp only [Call.bind, dropped]
    rfl

end Registry

namespace Interface

/-- An end is refused for being up alone. Whether or not its queues can be closed, the pool goes back to its root. -/
theorem destroy_ensures (iface : Interface) (close : Queues → Except Errno Unit) {done : Unit → Registry → Prop}
    {failed : Rejection → Registry → Prop}
    (refused : iface.isUp = true → failed (.interfaceUp iface.name) registry)
    (granted : iface.isUp = false → done () (registry.updateRoot iface.pool.root Root.returned)) :
    (destroy iface close).Ensures done failed registry := by
  unfold destroy
  split
  · rename_i up
    exact refused up
  · rename_i down
    have ended := granted (Bool.eq_false_iff.mpr down)
    split <;> exact ended

/-- Without queues there is nothing that could fail to be closed. -/
theorem destroy_of_free {iface : Interface} (free : iface.pool.queues = none) (close : Queues → Except Errno Unit) :
    destroy iface close = destroy iface fun _ => .ok () := by
  have released (close : Queues → Except Errno Unit) : (Pool.release close iface.pool).result = .ok () := by
    have granted : (Pool.release close).Ensures (fun _ _ => True) (fun _ _ => False) iface.pool := by
      simp [Pool.release, free]
    cases result : (Pool.release close iface.pool).result with
    | ok => rfl
    | error error => exact (granted.of_error result).elim
  simp only [destroy, released]

variable {name : String} {done : Interface → Registry → Prop} {failed : Error → Registry → Prop}

/-- A creation is refused by the name alone. -/
theorem create_ensures (kind : Kind) (id : Option UInt32)
    (refused : ∀ v, checkName name = .error v → failed (.violation v) registry)
    (granted : checkName name = .ok () →
      done (.new name (id.getD (registry.root root).nextId) kind root (registry.root root).capacity)
        (registry.updateRoot root Root.enrolled)) :
    (create root name kind id).Ensures done failed registry := by
  cases known : checkName name with
  | error v =>
    simp only [create, known, ensures_bind, ensures_check_error]
    exact refused v known
  | ok =>
    simp only [create, known, ensures_bind, ensures_check_ok, Registry.drawId, Registry.takePool, ensures_get,
      ensures_modify, ensures_log, ensures_pure, Registry.updateRoot_updateRoot]
    have created := granted known
    rw [← Registry.capacity_drawn] at created
    exact created

/-- Once the name is accepted, an id is drawn, whether or not the entry can be read. -/
theorem ofEntry_ensures (entry : Entry)
    (refused : ∀ v, checkName name = .error v → failed (.violation v) registry)
    (unread : ∀ v, checkName name = .ok () → entry.read {} = .error v →
      failed (.violation v) (registry.updateRoot root Root.drawn))
    (granted : ∀ settings, checkName name = .ok () → entry.read {} = .ok settings →
      done { Interface.new name (entry.id.getD (registry.root root).nextId) entry.kind root
          (registry.root root).capacity with settings, mtuChosen := entry.mtu.isSome }
        (registry.updateRoot root Root.enrolled)) :
    (ofEntry root name entry).Ensures done failed registry := by
  refine (ensures_bind _ _).mpr (create_ensures _ _ refused fun accepted => ?_)
  generalize fresh : Interface.new name (entry.id.getD (registry.root root).nextId) entry.kind root
    (registry.root root).capacity = iface
  have settled : iface.Settles (iface.mtuChosen || entry.mtu.isSome) (configure entry) {} (entry.read {}) :=
    configure_settles (fresh ▸ rfl) entry
  have bare : { iface with settings := {} } = iface := fresh ▸ rfl
  have pooled : iface.pool.root = root := fresh ▸ rfl
  unfold Settles at settled
  rw [bare] at settled
  simp only [ensures_bind, ensures_logAll]
  cases configured : (configure entry iface).result with
  | error error =>
    obtain ⟨v, unreadable, rfl⟩ := settled.of_error configured
    have given := unread v accepted unreadable
    simp only [Registry.dropPool, ensures_bind, ensures_modify, ensures_get, ensures_log, ensures_fail, pooled,
      Registry.updateRoot_updateRoot]
    exact given
  | ok =>
    obtain ⟨settings, reads, after⟩ := settled.of_ok configured
    have given := granted settings accepted reads
    simp only [ensures_pure]
    rw [after, ← fresh]
    exact given

end Interface

end VirtualLink
