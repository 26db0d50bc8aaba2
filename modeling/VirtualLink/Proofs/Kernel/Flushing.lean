import VirtualLink.Proofs.Kernel.Machine
import VirtualLink.Proofs.Lowering
import VirtualLink.Proofs.Steady

namespace VirtualLink

open Call Driven

variable {ε κ α : Type}

namespace Flushing

variable {system : System κ} {links : κ → Links} (flushing : Flushing system links)

include flushing

/-- Addresses are given only to a link that takes part in IPv6. -/
theorem assigned (control : Kernel.Control) (name : String) (addrs : List Ipv6) (step : Ipv6 → Step)
    (asks : ∀ addr, ∃ prefixLength, (step addr).request = .addIpv6 addr prefixLength) {undo : List Request} {state : κ}
    (before : addrs = [] → (links state).Numbered name) :
    ((Kernel.backend system control).runSteps name undo (addrs.map step)).Ensures
      (fun _ after => (links after).Numbered name) (fun _ _ => True) state := by
  induction addrs generalizing undo state with
  | nil => exact before rfl
  | cons addr rest ih =>
    obtain ⟨prefixLength, asked⟩ := asks addr
    simp only [List.map_cons, Backend.runSteps, ensures_bind, ensures_mapError, asked]
    refine (flushing.addIpv6_ensures control name addr prefixLength).mono (fun _ after granted => ih fun _ => ?_) ?_
    · obtain ⟨index, addrs, found, takesPart, assigned⟩ := granted
      rw [assigned]
      exact ⟨index, found, takesPart⟩
    · exact fun _ _ _ => trivial

/-- What is done last takes the link up, and leaves it the addresses that it was given before. -/
theorem serves (control : Kernel.Control) (name : String) (settings : Settings) (plan : Plan) (state : κ) :
    ((Kernel.backend system control).runSteps name [] (plan.steps name settings)).Ensures
      (fun _ after => (links after).Serving name settings.ipv6) (fun _ _ => True) state := by
  refine Backend.runSteps_append (Backend.runSteps_append (.of_forall (fun _ bare undo => ?_) fun _ _ => trivial))
  have addressed : ((Kernel.backend system control).runSteps name undo (Plan.ipv6Steps name settings)).Ensures
      (fun _ after => settings.ipv6 ≠ [] → (links after).Numbered name) (fun _ _ => True) bare := by
    by_cases none : settings.ipv6 = []
    · exact .of_forall (fun _ _ some => absurd none some) fun _ _ => trivial
    · refine (flushing.assigned control name settings.ipv6 _ (fun addr => ⟨_, rfl⟩) fun empty => absurd empty none).mono
        (fun _ _ numbered _ => numbered) fun _ _ _ => trivial
  refine addressed.mono (fun _ between numbered undo => ?_) fun _ _ _ => trivial
  refine (ensures_bind _ _).mpr ((ensures_mapError _ _).mpr ?_)
  refine (flushing.setAdmin_ensures control name true).mono (fun _ after granted => ?_) fun _ _ _ => trivial
  obtain ⟨index, found, raised⟩ := granted
  change (links after).Serving name settings.ipv6
  refine ⟨index, raised.index? ▸ found, raised.up, fun some => ?_⟩
  obtain ⟨other, known, takesPart⟩ := numbered some
  obtain rfl : index = other := Option.some.inj (found.symm.trans known)
  exact raised.takesPart takesPart

end Flushing

/-- An interface that is up has a link which is up. -/
def Afloat (links : κ → Links) (driven : Driven κ) : Prop :=
  driven.iface.isUp = true → (links driven.backend).Serving driven.iface.name driven.iface.settings.ipv6

namespace Afloat

variable {system : System κ} {links : κ → Links} (flushing : Flushing system links) (control : Kernel.Control)

theorem of_leaves {call : Call ε κ α} (leaves : call.Leaves links) : (onBackend call).Keeps (Afloat links) := by
  intro driven afloat
  rw [ensures_onBackend]
  have still (after : κ) (same : links after = links driven.backend) :
      Afloat links { driven with backend := after } := fun up => same ▸ afloat up
  exact (leaves _ driven.backend rfl).mono (fun _ => still) fun _ => still

include flushing

theorem lasting : Lasting (Kernel.backend system control) (Afloat links) where
  settings _ _ _ _ down _ up := absurd up (by simp [down])
  counters _ _ afloat := afloat
  readStat driven stat afloat :=
    of_leaves (Kernel.readStat_leaves (fun path => flushing.looks (.openFile path) rfl) _ stat) driven afloat
  write driven queues frame _ _ afloat := of_leaves (flushing.looks (.write queues.tx frame) rfl) driven afloat

theorem up : (Driven.up (Kernel.backend system control)).Keeps (Afloat links) := by
  rintro ⟨iface, state⟩ afloat
  cases isUp : iface.isUp with
  | true => exact up_refused isUp afloat
  | false =>
    refine (up_ensures_of_steps (flushing.serves control iface.name iface.settings) isUp state).mono ?_ ?_
    · rintro _ after ⟨name, ipv6, serving⟩ -
      rwa [name, ipv6]
    · exact fun _ after down up => absurd up (by simp [down])

theorem call (action : Action) : (action.call (Kernel.backend system control)).Keeps (Afloat links) := by
  cases action with
  | up => exact (up flushing control).map _
  | down =>
    refine Keeps.map _ fun driven _ => ensures_state_iff.mpr fun up => ?_
    exact absurd up (by simp [Driven.down_lowers])
  | receive =>
    refine Keeps.map _ (Lasting.receive fun driven queues _ _ afloat => ?_)
    exact of_leaves (flushing.looks (.read queues.rx _) rfl) driven afloat
  | _ => exact (lasting flushing control).call _ (by simp) (by simp) (by simp)

theorem run (actions : List Action) {start : Driven κ} (afloat : Afloat links start) :
    Afloat links (Action.run (Kernel.backend system control) actions start) := by
  induction actions generalizing start with
  | nil => exact afloat
  | cons action rest ih => exact ih ((call flushing control action).after afloat)

end Afloat

/-- What a tear-down asks after the addresses of IPv6 were removed. -/
def Interface.remainder (iface : Interface) : List Request :=
  (iface.settings.ipv4.map fun _ => Request.clearIpv4).toList ++ (iface.restore.map Restore.requests).getD []

theorem Interface.tearDown_eq_cons (iface : Interface) :
    iface.tearDown = .setAdmin false
      :: (iface.settings.ipv6.reverse.map (.delIpv6 · ipv6PrefixLength) ++ iface.remainder) := by
  simp [tearDown, Settings.retractions, remainder]

theorem Interface.remainder_spares (iface : Interface) : ∀ change ∈ iface.remainder, change.spares := by
  intro change member
  rcases List.mem_append.mp member with ipv4 | restored
  · cases set : iface.settings.ipv4 <;> simp [set] at ipv4
    rw [ipv4]
    rfl
  · cases attached : iface.restore with
    | none => simp [attached] at restored
    | some restore =>
      have either : change = .setMtu restore.mtu ∨ ∃ mac, restore.mac = some mac ∧ .setMac mac = change := by
        simpa [attached, Restore.requests] using restored
      obtain rfl | ⟨mac, -, rfl⟩ := either
      · rfl
      · rfl

/-- A turn that refuses nothing, but for the removal of an address from the link. -/
def Turn.clear (name : String) : Turn → Bool
  | .request _ (.delIpv6 _ _) (.error (.os action about (.errno _))) => action = "remove IPv6 address" && about = name
  | .request _ _ answer => answer.isOk
  | .release _ _ answer => answer.isOk
  | _ => true

/-- Of these changes nothing but an address may be refused. -/
theorem Turn.isOk_of_clear {name : String} {change : Request} {answer : Except Error Unit} (spares : change.spares)
    (clear : (Turn.request name change answer).clear name) : answer.isOk := by
  cases change with
  | setMac | setMtu | clearIpv4 => exact clear
  | _ => cases spares

theorem Backend.firstError_outcome_eq_none (backend : Backend κ) {name : String} {changes : List Request} {state : κ}
    (spares : ∀ change ∈ changes, change.spares)
    (clear : ∀ entry ∈ (backend.outcome name changes state).1, (Turn.request name entry.1 entry.2).clear name) :
    firstError ((backend.outcome name changes state).1.map Prod.snd) = none := by
  refine firstError_eq_none fun answer member => ?_
  obtain ⟨entry, made, rfl⟩ := List.mem_map.mp member
  have asked : entry.1 ∈ changes := by
    rw [← backend.outcome_requests changes state]
    exact List.mem_map_of_mem made
  exact Turn.isOk_of_clear (spares entry.1 asked) (clear entry made)

namespace Flushing

variable {system : System κ} {links : κ → Links} (flushing : Flushing system links) {index : Nat} {held : List Ipv6}

include flushing

theorem outcome_spared (control : Kernel.Control) (name : String) (changes : List Request)
    (spares : ∀ change ∈ changes, change.spares) {state : κ} (before : (links state).Grounded index held) :
    (links ((Kernel.backend system control).outcome name changes state).2).Grounded index held := by
  induction changes generalizing state with
  | nil => exact before
  | cons change rest ih =>
    have first : (Kernel.request system control name change).Keeps fun state => (links state).Grounded index held :=
      flushing.request_keeps control name (spares change List.mem_cons_self)
    exact ih (fun later member => spares later (List.mem_cons_of_mem _ member)) (first.after before)

/-- On a link that has lost its addresses, the removal of each is refused. -/
theorem outcome_removed (control : Kernel.Control) {name : String} (addrs : List Ipv6) {state : κ}
    (found : (links state).index? (fieldName (nameField name)) = some index)
    (takesPart : addrs ≠ [] → (links state).takesPart index) (bare : (links state).addresses index = [])
    (clear : ∀ entry ∈ ((Kernel.backend system control).outcome name (addrs.map (.delIpv6 · ipv6PrefixLength)) state).1,
      (Turn.request name entry.1 entry.2).clear name) :
    ((Kernel.backend system control).outcome name (addrs.map (.delIpv6 · ipv6PrefixLength)) state).1.map Prod.snd
        = addrs.map (fun _ => .error (Kernel.removalRefused name .addressNotAvailable))
      ∧ links ((Kernel.backend system control).outcome name (addrs.map (.delIpv6 · ipv6PrefixLength)) state).2
        = links state := by
  induction addrs generalizing state with
  | nil => exact ⟨rfl, rfl⟩
  | cons addr rest ih =>
    obtain ⟨first, later⟩ := List.forall_mem_cons.mp clear
    have part := takesPart (List.cons_ne_nil addr rest)
    let reply := Kernel.request system control name (.delIpv6 addr ipv6PrefixLength) state
    have refused : reply.result = .error (Kernel.removalRefused name .addressNotAvailable)
        ∧ links reply.state = links state := by
      have gone : (Kernel.request system control name (.delIpv6 addr ipv6PrefixLength)).Ensures _ _ state :=
        flushing.delIpv6_ensures control found part (bare ▸ List.not_mem_nil) ipv6PrefixLength
      change (Turn.request name (.delIpv6 addr ipv6PrefixLength) reply.result).clear name at first
      cases answer : reply.result with
      | ok => exact (gone.of_ok answer).elim
      | error error =>
        obtain ⟨same, rfl | ⟨errno, rfl⟩⟩ := gone.of_error answer
        · exact ⟨rfl, same⟩
        · -- A link that cannot be found any more is no removal that is refused.
          simp [answer, Turn.clear] at first
    have foundStill : (links reply.state).index? (fieldName (nameField name)) = some index := by rw [refused.2, found]
    have partStill : (links reply.state).takesPart index := by rw [refused.2, part]
    have bareStill : (links reply.state).addresses index = [] := by rw [refused.2, bare]
    obtain ⟨answers, same⟩ := ih foundStill (fun _ => partStill) bareStill later
    exact ⟨congrArg₂ List.cons refused.1 answers, same.trans refused.2⟩

/-- A link that goes down loses its addresses. -/
theorem lowered_ensures (control : Kernel.Control) {name : String} {addrs : List Ipv6} {state : κ}
    (serving : (links state).Serving name addrs) :
    (Kernel.setAdmin system control name false).Ensures
      (fun _ after => ∃ index, (links state).index? (fieldName (nameField name)) = some index
        ∧ (links after).index? (fieldName (nameField name)) = some index
        ∧ (addrs ≠ [] → (links after).takesPart index) ∧ (links after).Grounded index []) (fun _ _ => True) state := by
  obtain ⟨index, found, up, takesPart⟩ := serving
  refine (flushing.setAdmin_ensures control name false).mono (fun _ after granted => ?_) fun _ _ _ => trivial
  obtain ⟨other, again, lowered⟩ := granted
  obtain rfl : index = other := Option.some.inj (found.symm.trans again)
  exact ⟨index, found, lowered.index? ▸ found, fun some => lowered.takesPart (takesPart some), lowered.up,
    List.subset_nil.mpr (lowered.bare up rfl)⟩

/-- None of the addresses can be removed once the link is down, and nothing gives one back. -/
theorem outcome_tearDown (control : Kernel.Control) (iface : Interface) {state : κ}
    (serving : (links state).Serving iface.name iface.settings.ipv6)
    (clear : ∀ entry ∈ ((Kernel.backend system control).outcome iface.name iface.tearDown state).1,
      (Turn.request iface.name entry.1 entry.2).clear iface.name) :
    firstError (((Kernel.backend system control).outcome iface.name iface.tearDown state).1.map Prod.snd)
        = (if iface.settings.ipv6 = [] then none else some (Kernel.removalRefused iface.name .addressNotAvailable))
      ∧ ∃ index, (links state).index? (fieldName (nameField iface.name)) = some index
        ∧ (links ((Kernel.backend system control).outcome iface.name iface.tearDown state).2).Grounded index [] := by
  let backend := Kernel.backend system control
  let lowered := Kernel.request system control iface.name (.setAdmin false) state
  let removals := iface.settings.ipv6.reverse.map (Request.delIpv6 · ipv6PrefixLength)
  let removed := backend.outcome iface.name removals lowered.state
  let last := backend.outcome iface.name iface.remainder removed.2
  have whole : backend.outcome iface.name iface.tearDown state
      = ((.setAdmin false, lowered.result) :: (removed.1 ++ last.1), last.2) := by
    rw [iface.tearDown_eq_cons, Backend.outcome, Backend.outcome_append]
    rfl
  rw [show (Kernel.backend system control).outcome iface.name iface.tearDown state = _ from whole] at clear ⊢
  obtain ⟨admin, clear⟩ := List.forall_mem_cons.mp clear
  obtain ⟨removing, finishing⟩ := List.forall_mem_append.mp clear
  have granted : lowered.result = .ok () := by
    change lowered.result.isOk at admin
    cases answer : lowered.result with
    | ok => rfl
    | error error => simp [answer, Except.isOk, Except.toBool] at admin
  have down : (Kernel.setAdmin system control iface.name false).Ensures _ _ state :=
    flushing.lowered_ensures control serving
  obtain ⟨index, found, still, takesPart, grounded⟩ := down.of_ok granted
  have gone : removed.1.map Prod.snd
        = iface.settings.ipv6.reverse.map (fun _ => .error (Kernel.removalRefused iface.name .addressNotAvailable))
      ∧ links removed.2 = links lowered.state :=
    flushing.outcome_removed control _ still (fun some => takesPart (by simpa using some))
      (List.subset_nil.mp grounded.addresses) removing
  have finished : firstError (last.1.map Prod.snd) = none :=
    backend.firstError_outcome_eq_none iface.remainder_spares finishing
  have removedGrounded : (links removed.2).Grounded index [] := gone.2 ▸ grounded
  refine ⟨?_, index, found, flushing.outcome_spared control iface.name _ iface.remainder_spares removedGrounded⟩
  calc firstError (.map Prod.snd ((.setAdmin false, lowered.result) :: (removed.1 ++ last.1)))
      = firstError ([.ok ()] ++ (removed.1.map Prod.snd ++ last.1.map Prod.snd)) := by
        rw [List.map_cons, List.map_append, granted]
        rfl
    _ = firstError (removed.1.map Prod.snd) := by
        rw [firstError_append, firstError_append, finished]
        cases firstError (removed.1.map Prod.snd) <;> rfl
    _ = _ := by simp only [gone.1, firstError_refused, List.reverse_eq_nil_iff]

/-- To close the queues gives the link no address, and fails only if the queues cannot be closed. -/
theorem closeLink_spared (control : Kernel.Control) (driven : Driven (Transcribed κ)) :
    (closeLink (Kernel.backend system control).transcribed
        : Call ε (Driven (Transcribed κ)) (Origin × Option Error)).Ensures
      (fun closed after =>
        (∀ index held, (links driven.backend.state).Grounded index held →
          (links after.backend.state).Grounded index held)
        ∧ ∃ turns, after.backend.turns = driven.backend.turns ++ turns
          ∧ ∀ name, (∀ turn ∈ turns, turn.clear name) → closed.2 = none)
      (fun _ _ => False) driven := by
  simp only [closeLink, releaseQueues, ensures_bind, ensures_iface?, ensures_attempt]
  cases driven.iface.pool.queues with
  | none => exact ⟨fun _ _ before => before, [], (List.append_nil _).symm, fun _ _ => rfl⟩
  | some queues =>
    simp only [ensures_bind, ensures_update, ensures_onBackend]
    let spared (after : κ) : Prop :=
      ∀ index held, (links driven.backend.state).Grounded index held → (links after).Grounded index held
    have closed : (Kernel.release system driven.iface.name queues).Ensures (fun _ => spared) (fun _ => spared)
        driven.backend.state :=
      ensures_state_iff.mpr fun _ _ before => (flushing.release_keeps driven.iface.name queues).after before
    refine ensures_transcribed.mpr (closed.mono (fun _ after spared => ?_) fun error after spared => ?_)
    · exact ⟨spared, [.release driven.iface.name queues (.ok ())], rfl, fun _ _ => rfl⟩
    · simp only [ensures_log, ensures_pure]
      refine ⟨spared, [.release driven.iface.name queues (.error error)], rfl, fun name clear => ?_⟩
      exact absurd (clear _ List.mem_cons_self) Bool.false_ne_true

/-- What a tear-down on a link comes to if no request but the removal of an address is refused. -/
def Lost (links : κ → Links) (iface : Interface) (state : κ) (result : Except Error Unit)
    (after : Transcribed κ) : Prop :=
  (∀ turn ∈ after.turns, turn.clear iface.name) →
    result = (if iface.settings.ipv6 = [] then .ok ()
        else .error (Kernel.removalRefused iface.name .addressNotAvailable))
      ∧ ∃ index, (links state).index? (fieldName (nameField iface.name)) = some index
        ∧ (links after.state).Grounded index []

theorem down_loses (control : Kernel.Control) {iface : Interface} {state : κ} (up : iface.isUp = true)
    (serving : (links state).Serving iface.name iface.settings.ipv6) :
    (Driven.down (Kernel.backend system control).transcribed).Ensures
      (fun _ after => Lost links iface state (.ok ()) after.backend)
      (fun error after => Lost links iface state (.error error) after.backend) ⟨iface, ⟨state, []⟩⟩ := by
  have unobserved : Unobserved (Kernel.backend system control).transcribed
      fun seen => links seen.backend.state = links state := by
    refine ⟨fun _ _ same => same, fun seen stat before => ?_⟩
    have read : (Kernel.readStat system seen.iface.name stat).Leaves links :=
      Kernel.readStat_leaves (fun path => flushing.looks (.openFile path) rfl) seen.iface.name stat
    rw [ensures_onBackend]
    exact ensures_transcribed.mpr (read _ seen.backend.state before)
  refine (down_ensures_iff up).mpr ((ensures_bind _ _).mpr (ensures_iface?.mpr ((ensures_bind _ _).mpr ?_)))
  refine (lastLook_ensures (observeAll_keeps unobserved.observe Stat.all _ rfl)).mono (fun _ seen same => ?_)
    fun _ _ never => never.elim
  refine (ensures_bind _ _).mpr ((ensures_onBackend _).mpr (Backend.requestAll_outcome _ ?_))
  simp only [shutDown, ensures_bind, ensures_update]
  refine (flushing.closeLink_spared control _).mono (fun closed after left => ?_) fun _ _ never => never.elim
  obtain ⟨spared, turns, told, shut⟩ := left
  let answers := ((Kernel.backend system control).outcome iface.name iface.tearDown seen.backend.state).1
  have ended : Lost links iface state
      ((firstError (answers.map Prod.snd) <|> closed.2).elim (.ok ()) .error) after.backend := by
    intro clear
    rw [told] at clear
    obtain ⟨earlier, last⟩ := List.forall_mem_append.mp clear
    obtain ⟨-, requests⟩ := List.forall_mem_append.mp earlier
    rw [← same] at serving
    obtain ⟨refused, index, found, grounded⟩ := flushing.outcome_tearDown control iface serving fun entry member =>
      requests _ (List.mem_map_of_mem member)
    rw [shut iface.name last, show firstError (answers.map Prod.snd) = _ from refused]
    refine ⟨?_, index, same ▸ found, spared index [] grounded⟩
    split <;> rfl
  revert ended
  cases firstError (answers.map Prod.snd) <|> closed.2 <;> exact id

end Flushing

/-- If no request is refused but for the removal of an address, a tear-down leaves none on the link. It fails if and
only if the interface has one, because the link goes down first and there is none left to remove then. -/
theorem down_ok_iff_no_ipv6 {system : System κ} {links : κ → Links} (flushing : Flushing system links)
    (control : Kernel.Control) (state : κ) (name : String) (id : UInt32) (kind : Kind) (root : RootId) (capacity : Nat)
    (actions : List Action) :
    let backend := Kernel.backend system control
    let driven := Action.run backend actions ⟨Interface.new name id kind root capacity, state⟩
    let reply := Driven.down backend.transcribed ⟨driven.iface, ⟨driven.backend, []⟩⟩
    driven.iface.isUp = true →
      Driven.down backend driven = ⟨reply.result, reply.state.seen Transcribed.state, reply.events⟩
      ∧ ((∀ turn ∈ reply.state.backend.turns, turn.clear driven.iface.name) →
        (reply.result = .ok () ↔ driven.iface.settings.ipv6 = [])
        ∧ (driven.iface.settings.ipv6 ≠ [] →
          reply.result = .error (Kernel.removalRefused driven.iface.name .addressNotAvailable))
        ∧ ∃ index, (links driven.backend).index? (fieldName (nameField driven.iface.name)) = some index
          ∧ (links reply.state.backend.state).addresses index = []) := by
  intro backend driven reply up
  have afloat : Afloat links driven := Afloat.run flushing control actions fun up => nomatch up
  let ended (result : Except Error Unit) (after : Driven (Transcribed κ)) : Prop :=
    Flushing.Lost links driven.iface driven.backend result after.backend
  have torn : (Driven.down backend.transcribed).Ensures (fun _ => ended (.ok ())) (fun error => ended (.error error))
      ⟨driven.iface, ⟨driven.backend, []⟩⟩ := flushing.down_loses control up (afloat up)
  have lost : ended reply.result reply.state := ensures_result_iff.mp torn
  refine ⟨backend.transcribed_mirrors.down ⟨driven.iface, ⟨driven.backend, []⟩⟩, fun clear => ?_⟩
  obtain ⟨result, index, found, grounded⟩ := lost clear
  refine ⟨?_, fun some => result.trans (if_neg some), index, found, List.subset_nil.mp grounded.addresses⟩
  rw [result]
  split <;> simp [*]

/-- An interface with an IPv6 address that was brought up on a machine, once the control sockets were opened. -/
def Machine.numbered (machine : Machine) (control : Kernel.Control) : Driven Machine :=
  Action.run (Kernel.backend Machine.system control) [.set (.ipv6 ["2001:db8:25::46"]), .up]
    ⟨Interface.new "tap0" 0 .tap 0 defaultCapacity, ((Kernel.openControl Machine.system) machine).state⟩

/-- What a tear-down makes of an interface on a machine, with what it asks. -/
def Machine.tornDown (control : Kernel.Control) (driven : Driven Machine) :
    Reply Error (Driven (Transcribed Machine)) Unit :=
  Driven.down (Kernel.backend Machine.system control).transcribed ⟨driven.iface, ⟨driven.backend, []⟩⟩

theorem Machine.tornDown_result (control : Kernel.Control) (driven : Driven Machine) :
    (Driven.down (Kernel.backend Machine.system control) driven).result = (tornDown control driven).result :=
  congrArg Reply.result
    ((Kernel.backend Machine.system control).transcribed_mirrors.down ⟨driven.iface, ⟨driven.backend, []⟩⟩)

/-- A machine on which somebody else holds the tap. -/
def Machine.taken : Machine :=
  ((Kernel.acquire Machine.system "tap0" .tap) Machine.fresh).state

/-- The link of somebody else loses the address, and the tear-down is told so. -/
theorem down_ok_iff_no_ipv6_taken :
    let control : Kernel.Control := ⟨⟨.inet, 5⟩, ⟨.inet6, 6⟩⟩
    let driven := Machine.taken.numbered control
    Flushing Machine.system Machine.links
      ∧ ((Kernel.openControl Machine.system) Machine.taken).result.toOption = some control
      ∧ driven.iface.isUp = true
      ∧ (driven.iface.pool.queues.map Queues.origin) = some .attached
      ∧ (∀ turn ∈ (Machine.tornDown control driven).state.backend.turns, turn.clear driven.iface.name)
      ∧ (Machine.tornDown control driven).result
        = .error (Kernel.removalRefused driven.iface.name .addressNotAvailable)
      ∧ ∃ index, driven.backend.links.index? (fieldName (nameField driven.iface.name)) = some index
        ∧ (Machine.tornDown control driven).state.backend.state.links.addresses index = [] := by
  intro control driven
  have up : driven.iface.isUp = true := by decide +kernel
  have clear : ∀ turn ∈ (Machine.tornDown control driven).state.backend.turns, turn.clear driven.iface.name :=
    List.all_eq_true.mp (by decide +kernel)
  have some : driven.iface.settings.ipv6 ≠ [] := by decide +kernel
  obtain ⟨-, cleared⟩ := down_ok_iff_no_ipv6 Machine.flushing control
    ((Kernel.openControl Machine.system) Machine.taken).state "tap0" 0 .tap 0 defaultCapacity
    [.set (.ipv6 ["2001:db8:25::46"]), .up] up
  obtain ⟨-, refused, gone⟩ := cleared clear
  exact ⟨Machine.flushing, by decide +kernel, up, by decide +kernel, clear, refused some, gone⟩

/-- A tear-down of a link with an address fails on a machine that refuses nothing else. -/
theorem down_refused_fresh :
    let control : Kernel.Control := ⟨⟨.inet, 3⟩, ⟨.inet6, 4⟩⟩
    let driven := Machine.fresh.numbered control
    let reply := Machine.tornDown control driven
    Flushing Machine.system Machine.links
      ∧ ((Kernel.openControl Machine.system) Machine.fresh).result.toOption = some control
      ∧ driven.iface.isUp = true
      ∧ (∀ turn ∈ reply.state.backend.turns, turn.clear driven.iface.name)
      ∧ (Driven.down (Kernel.backend Machine.system control) driven).result ≠ .ok () := by
  intro control driven reply
  have torn : (reply.state.backend.turns.all (Turn.clear driven.iface.name) && ! reply.result.isOk) = true := by
    decide +kernel
  obtain ⟨clear, refused⟩ := Bool.and_eq_true_iff.mp torn
  refine ⟨Machine.flushing, by decide +kernel, by decide +kernel, List.all_eq_true.mp clear, fun granted => ?_⟩
  rw [Machine.tornDown_result] at granted
  change reply.result = .ok () at granted
  rw [granted] at refused
  exact absurd refused (by decide)

end VirtualLink
