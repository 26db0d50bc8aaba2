import VirtualLink.Interface.BringUp
import VirtualLink.Proofs.MemoryLink.Undoing

namespace VirtualLink

namespace Step

/-- Each request is undone by what takes back its own step or an earlier one. -/
def Covered (earlier : List Request) : List Step → Prop
  | [] => True
  | step :: rest =>
    (∃ undo ∈ step.undo.toList ++ earlier, undo.Undoes step.request) ∧ Covered (step.undo.toList ++ earlier) rest

theorem covered_append {earlier : List Request} {first second : List Step} :
    Covered earlier (first ++ second)
      ↔ Covered earlier first ∧ Covered ((first.filterMap undo).reverse ++ earlier) second := by
  induction first generalizing earlier with
  | nil => simp [Covered]
  | cons step rest ih =>
    rw [undo_cons]
    simp only [List.cons_append, Covered, ih, and_assoc]

theorem Covered.undone {earlier : List Request} {steps : List Step} (covered : Covered earlier steps) :
    ∀ step ∈ steps, ∃ u ∈ (steps.filterMap undo).reverse ++ earlier, u.Undoes step.request := by
  induction steps generalizing earlier with
  | nil => simp
  | cons first rest ih =>
    intro step member
    rw [undo_cons]
    rcases List.mem_cons.mp member with rfl | later
    · obtain ⟨u, known, undoes⟩ := covered.1
      exact ⟨u, List.mem_append_right _ known, undoes⟩
    · exact ih covered.2 step later

end Step

namespace Plan

variable {plan : Plan} {name : String} {settings : Settings}

/-- The steps that give the link its settings, before it is told to be up. -/
def configuring (plan : Plan) (name : String) (settings : Settings) : List Step :=
  plan.macSteps name ++ plan.mtuStep name :: ipv4Steps name settings ++ ipv6Steps name settings

theorem steps_eq_configuring_append :
    plan.steps name settings = plan.configuring name settings ++ [⟨.setAdmin true, none, []⟩] :=
  rfl

theorem covered_trail {undo : Request} {earlier : List Request} (notes : List Event) (known : undo ∈ earlier) :
    ∀ requests : List Request, (∀ request ∈ requests, undo.Undoes request) →
      Step.Covered earlier (group.trail notes requests)
  | [], _ => trivial
  | [_], undoes => ⟨⟨undo, known, undoes _ (List.mem_cons_self ..)⟩, trivial⟩
  | _ :: second :: rest, undoes =>
    ⟨⟨undo, known, undoes _ (List.mem_cons_self ..)⟩,
      covered_trail notes known (second :: rest) fun request member =>
        undoes request (List.mem_cons_of_mem _ member)⟩

theorem covered_group {undo : Request} {earlier : List Request} (notes : List Event) :
    ∀ requests : List Request, (∀ request ∈ requests, undo.Undoes request) →
      Step.Covered earlier (group undo notes requests)
  | [], _ => trivial
  | [_], undoes => ⟨⟨undo, List.mem_cons_self .., undoes _ (List.mem_cons_self ..)⟩, trivial⟩
  | _ :: second :: rest, undoes =>
    ⟨⟨undo, List.mem_cons_self .., undoes _ (List.mem_cons_self ..)⟩,
      covered_trail notes (List.mem_cons_self ..) (second :: rest) fun request member =>
        undoes request (List.mem_cons_of_mem _ member)⟩

theorem clearIpv4_undoes : ∀ request ∈ ipv4Requests settings, Request.Undoes .clearIpv4 request := by
  intro request member
  unfold ipv4Requests at member
  split at member
  · simp only [List.cons_append, List.mem_cons, List.mem_append, Option.mem_toList,
      Option.map_eq_some_iff] at member
    rcases member with rfl | ⟨_, _, rfl⟩ | ⟨_, _, rfl⟩
    · exact .ipv4 _
    · exact .netmask _
    · exact .broadcast _
  · simp at member

theorem covered_ipv6 {earlier : List Request} (addrs : List Ipv6) :
    Step.Covered earlier (addrs.map fun addr =>
      ⟨.addIpv6 addr ipv6PrefixLength, some (.delIpv6 addr ipv6PrefixLength),
        [.ipv6Added addr ipv6PrefixLength name]⟩) := by
  induction addrs generalizing earlier with
  | nil => trivial
  | cons addr rest ih => exact ⟨⟨_, List.mem_cons_self .., .ipv6 ..⟩, ih⟩

/-- Whatever a bring-up does before the link is told to be up has something that undoes it. -/
theorem covered_configuring : Step.Covered [] (plan.configuring name settings) := by
  unfold configuring
  rw [Step.covered_append, Step.covered_append, Step.Covered]
  refine ⟨⟨?_, ⟨_, List.mem_cons_self .., .mtu ..⟩, covered_group _ _ clearIpv4_undoes⟩, covered_ipv6 _⟩
  unfold macSteps
  split
  · exact ⟨⟨_, List.mem_cons_self .., .mac ..⟩, trivial⟩
  · trivial

/-- The requests of a bring-up before the link is told to be up, each with what takes it back. -/
inductive Asks (plan : Plan) (settings : Settings) : Request → Option Request → Prop
  | mac {previous : Mac} (read : plan.previousMac = some previous) :
      Asks plan settings (.setMac plan.mac) (some (.setMac previous))
  | mtu : Asks plan settings (.setMtu plan.mtu) (some (.setMtu plan.previousMtu))
  | ipv4 {addr : Ipv4} (given : settings.ipv4 = some addr) : Asks plan settings (.setIpv4 addr) (some .clearIpv4)
  | netmask {mask : Ipv4} (given : settings.netmask = some mask) : Asks plan settings (.setNetmask mask) none
  | broadcast {addr : Ipv4} (given : settings.broadcast = some addr) : Asks plan settings (.setBroadcast addr) none
  | ipv6 {addr : Ipv6} (given : addr ∈ settings.ipv6) :
      Asks plan settings (.addIpv6 addr ipv6PrefixLength) (some (.delIpv6 addr ipv6PrefixLength))

theorem mem_trail {notes : List Event} {step : Step} :
    ∀ requests : List Request, step ∈ group.trail notes requests → step.request ∈ requests ∧ step.undo = none
  | [], member => by simp [group.trail] at member
  | [last], member => by
    obtain rfl := List.mem_singleton.mp member
    exact ⟨List.mem_cons_self .., rfl⟩
  | next :: second :: rest, member => by
    rcases List.mem_cons.mp member with rfl | later
    · exact ⟨List.mem_cons_self .., rfl⟩
    · obtain ⟨among, bare⟩ := mem_trail (second :: rest) later
      exact ⟨List.mem_cons_of_mem _ among, bare⟩

theorem mem_group {undo first : Request} {notes : List Event} {step : Step} :
    ∀ rest : List Request, step ∈ group undo notes (first :: rest) →
      step.request = first ∧ step.undo = some undo ∨ step.request ∈ rest ∧ step.undo = none
  | [], member => by
    obtain rfl := List.mem_singleton.mp member
    exact .inl ⟨rfl, rfl⟩
  | second :: rest, member => by
    rcases List.mem_cons.mp member with rfl | later
    · exact .inl ⟨rfl, rfl⟩
    · exact .inr (mem_trail (second :: rest) later)

theorem request_mem_ipv4Requests {step : Step} (member : step ∈ ipv4Steps name settings) :
    step.request ∈ ipv4Requests settings := by
  unfold ipv4Steps at member
  cases requests : ipv4Requests settings with
  | nil => simp [requests, group] at member
  | cons first rest =>
    rw [requests] at member
    rcases mem_group rest member with ⟨request, _⟩ | ⟨among, _⟩
    · exact request ▸ List.mem_cons_self ..
    · exact List.mem_cons_of_mem _ among

theorem asks_of_mem_ipv4Steps {step : Step} (member : step ∈ ipv4Steps name settings) :
    plan.Asks settings step.request step.undo := by
  unfold ipv4Steps ipv4Requests at member
  split at member
  · rename_i addr given
    rcases mem_group _ member with ⟨request, undo⟩ | ⟨among, undo⟩
    · rw [request, undo]
      exact .ipv4 given
    · rw [undo]
      simp only [List.append_eq, List.mem_append, Option.mem_toList, Option.map_eq_some_iff] at among
      rcases among with ⟨mask, given, request⟩ | ⟨last, given, request⟩
      · exact request ▸ .netmask given
      · exact request ▸ .broadcast given
  · simp [group] at member

theorem asks_of_mem {step : Step} (member : step ∈ plan.configuring name settings) :
    plan.Asks settings step.request step.undo := by
  simp only [configuring, List.mem_append, List.mem_cons, ipv6Steps, List.mem_map] at member
  rcases member with (ofMac | rfl | ofIpv4) | ⟨addr, given, rfl⟩
  · unfold macSteps at ofMac
    split at ofMac
    · rename_i previous read
      obtain rfl := List.mem_singleton.mp ofMac
      exact .mac read
    · simp at ofMac
  · exact .mtu
  · exact asks_of_mem_ipv4Steps ofIpv4
  · exact .ipv6 given

theorem Asks.takesBack {found : LinkState} {request undo : Request} (asks : plan.Asks settings request (some undo))
    (mtu : plan.previousMtu = found.mtu)
    (mac : ∀ previous, plan.previousMac = some previous → previous = found.mac) :
    undo.TakesBack found := by
  cases asks with
  | mac read => exact mac _ read ▸ .mac
  | mtu => exact mtu ▸ .mtu
  | ipv4 => exact .ipv4
  | ipv6 => exact .ipv6 ..

/-- Only the IPv4 address is taken back by clearing it, and it always is. -/
theorem Asks.clearIpv4_iff {request : Request} {undo : Option Request} (asks : plan.Asks settings request undo) :
    undo = some .clearIpv4 ↔ request.op = .setIpv4 := by
  cases asks <;> simp [Request.op]

section

variable {before after : List Step} {step : Step}

/-- A bring-up that stops has made steps before the link is told to be up only. -/
theorem subset_configuring (cut : plan.steps name settings = before ++ step :: after) :
    before <+: plan.configuring name settings := by
  rw [steps_eq_configuring_append] at cut
  rcases List.append_eq_append_iff.mp cut with ⟨rest, rfl, last⟩ | ⟨rest, whole, _⟩
  · cases rest with
    | nil => exact List.prefix_rfl.trans (by simp)
    | cons first others => simp at last
  · exact ⟨rest, whole.symm⟩

theorem undone_of_prefix (made : before <+: plan.configuring name settings) :
    ∀ change ∈ before.map Step.request, ∃ u ∈ (before.filterMap Step.undo).reverse, u.Undoes change := by
  obtain ⟨rest, whole⟩ := made
  have covered : Step.Covered [] (plan.configuring name settings) := covered_configuring
  rw [← whole] at covered
  have undone := (Step.covered_append.mp covered).1.undone
  rw [List.append_nil] at undone
  intro change member
  obtain ⟨step, among, rfl⟩ := List.mem_map.mp member
  exact undone step among

theorem clearIpv4_mem_iff (made : before ⊆ plan.configuring name settings) :
    .clearIpv4 ∈ before.filterMap Step.undo ↔ .setIpv4 ∈ before.map (·.request.op) := by
  simp only [List.mem_filterMap, List.mem_map]
  constructor
  · rintro ⟨earlier, member, undo⟩
    exact ⟨earlier, member, (asks_of_mem (made member)).clearIpv4_iff.mp undo⟩
  · rintro ⟨earlier, member, op⟩
    exact ⟨earlier, member, (asks_of_mem (made member)).clearIpv4_iff.mpr op⟩

/-- Of steps of one kind the first is told to fail, if any: the addresses are added all or none. -/
theorem ipv6Steps_subset (cut : plan.steps name settings = before ++ step :: after)
    (earlier : ∀ e ∈ before, e.request.op ≠ step.request.op) (added : .addIpv6 ∈ before.map (·.request.op)) :
    ipv6Steps name settings ⊆ before := by
  obtain ⟨first, member, firstOp⟩ := List.mem_map.mp added
  have ofIpv6 : ∀ s ∈ ipv6Steps name settings, s.request.op = .addIpv6 := by
    intro s member
    obtain ⟨_, _, rfl⟩ := List.mem_map.mp member
    rfl
  have others : ∀ s ∈ plan.macSteps name ++ plan.mtuStep name :: ipv4Steps name settings,
      s.request.op ≠ .addIpv6 := by
    intro s member
    simp only [List.mem_append, List.mem_cons] at member
    rcases member with ofMac | rfl | ofIpv4
    · unfold macSteps at ofMac
      split at ofMac
      · obtain rfl := List.mem_singleton.mp ofMac
        simp [Request.op]
      · simp at ofMac
    · simp [mtuStep, Request.op]
    · have undoes := clearIpv4_undoes _ (request_mem_ipv4Requests ofIpv4)
      generalize s.request = request at undoes ⊢
      cases undoes <;> simp [Request.op]
  have cut' : plan.macSteps name ++ plan.mtuStep name :: ipv4Steps name settings
      ++ (ipv6Steps name settings ++ [⟨.setAdmin true, none, []⟩]) = before ++ step :: after := by
    rw [← cut, ← List.append_assoc]
    rfl
  -- A cut before the addresses has made none of them; one among them is at a second step of their kind.
  rcases List.append_eq_append_iff.mp cut' with ⟨middle, rfl, rest⟩ | ⟨middle, front, _⟩
  · rcases List.append_eq_append_iff.mp rest with ⟨last, rfl, _⟩ | ⟨last, ipv6, rest⟩
    · exact fun s member => List.mem_append_right _ (List.mem_append_left _ member)
    · cases last with
      | nil =>
        rw [ipv6, List.append_nil]
        exact fun s member => List.mem_append_right _ member
      | cons next others =>
        obtain ⟨rfl, _⟩ := List.cons.inj rest
        have stepOp := ofIpv6 step (ipv6 ▸ List.mem_append_right _ (List.mem_cons_self ..))
        exact absurd (firstOp.trans stepOp.symm) (earlier first member)
  · exact absurd firstOp (others first (front ▸ List.mem_append_left _ member))

theorem delIpv6_mem_iff (cut : plan.steps name settings = before ++ step :: after)
    (earlier : ∀ e ∈ before, e.request.op ≠ step.request.op) {addr : Ipv6} {prefixLength : UInt8} :
    .delIpv6 addr prefixLength ∈ before.filterMap Step.undo
      ↔ .addIpv6 ∈ before.map (·.request.op) ∧ prefixLength = ipv6PrefixLength ∧ addr ∈ settings.ipv6 := by
  simp only [List.mem_filterMap]
  constructor
  · rintro ⟨made, member, undo⟩
    have asks := asks_of_mem ((subset_configuring cut).subset member)
    rw [undo] at asks
    generalize request : made.request = change at asks
    cases asks with
    | ipv6 given => exact ⟨List.mem_map.mpr ⟨made, member, request ▸ rfl⟩, rfl, given⟩
  · rintro ⟨added, rfl, given⟩
    exact ⟨_, ipv6Steps_subset cut earlier added (List.mem_map.mpr ⟨addr, given, rfl⟩), rfl⟩

end

end Plan

end VirtualLink
