import VirtualLink.Interface.BringUp
import VirtualLink.MemoryLink
import VirtualLink.Proofs.Ensures

namespace VirtualLink

namespace LinkState

/-- The state after a granted request, which the log tells. -/
def grant (state : LinkState) (change : Request) : LinkState :=
  { state.apply change with log := state.log ++ [change.op] }

def grantAll (state : LinkState) (changes : List Request) : LinkState :=
  changes.foldl grant state

theorem grantAll_append (state : LinkState) (first second : List Request) :
    state.grantAll (first ++ second) = (state.grantAll first).grantAll second :=
  List.foldl_append

/-- The state after requests, but for the log. -/
def applyAll (state : LinkState) (changes : List Request) : LinkState :=
  changes.foldl apply state

/-- No request brings a link into being or makes one disappear. -/
theorem grantAll_exists (state : LinkState) (changes : List Request) :
    (state.grantAll changes).exists? = state.exists? := by
  induction changes generalizing state with
  | nil => rfl
  | cons change rest ih =>
    have first : (state.grant change).exists? = state.exists? := by cases change <;> rfl
    exact (ih _).trans first

theorem applyAll_with_log (state : LinkState) (log : List Op) (changes : List Request) :
    { state with log }.applyAll changes = { state.applyAll changes with log } := by
  induction changes generalizing state with
  | nil => rfl
  | cons change rest ih =>
    have first : { state with log }.apply change = { state.apply change with log } := by
      cases change <;> rfl
    change ({ state with log }.apply change).applyAll rest = _
    rw [first]
    exact ih _

theorem grantAll_eq (state : LinkState) (changes : List Request) :
    state.grantAll changes = { state.applyAll changes with log := state.log ++ changes.map Request.op } := by
  induction changes generalizing state with
  | nil => simp [grantAll, applyAll]
  | cons change rest ih =>
    change (state.grant change).grantAll rest = _
    rw [ih]
    simp only [grant, applyAll_with_log, List.append_assoc, List.map_cons, List.singleton_append]
    rfl

end LinkState

/-- What takes back a run of steps, and after that what takes back the ones before. -/
theorem Step.undo_cons (step : Step) (rest : List Step) (earlier : List Request) :
    ((step :: rest).filterMap undo).reverse ++ earlier
      = (rest.filterMap undo).reverse ++ (step.undo.toList ++ earlier) := by
  cases own : step.undo <;> simp [own]

namespace MemoryLink

variable {link : MemoryLink} {failed : Error → MemoryLink → Prop}

/-- The answer of an operation that was told to fail. -/
def refusal (op : Op) (name : String) : Error :=
  .os "complete injected operation" name (.other s!"{op.label} failed")

/-- The link once the failure that was set has struck. -/
def disarmed (link : MemoryLink) : MemoryLink :=
  { link with fault := none }

/-- The link after granted requests. -/
def granted (link : MemoryLink) (changes : List Request) : MemoryLink :=
  { link with state := link.state.grantAll changes }

/-- The link after an opening. -/
def opened (kind : Kind) (link : MemoryLink) : MemoryLink :=
  ((link.reopened kind).record .acquire).connect

/-- The near end of the pair that the next opening makes. -/
def nearEnd (link : MemoryLink) : Descriptor :=
  ⟨.pair link.id, link.nextPair⟩

def origin (link : MemoryLink) : Origin :=
  if link.attached then .attached else .created

def newQueues (link : MemoryLink) : Queues :=
  ⟨link.nearEnd, link.nearEnd, link.origin⟩

def shut (queues : Queues) (link : MemoryLink) : MemoryLink :=
  (link.withdrawn.close queues.rx).close queues.tx

/-- The link after a release, which closes the queues even if it fails. -/
def released (queues : Queues) (link : MemoryLink) : MemoryLink :=
  if link.fault = some .release then link.disarmed.shut queues else (link.shut queues).record .release

@[simp]
theorem backend_acquire : backend.acquire = acquire :=
  rfl

@[simp]
theorem backend_release : backend.release = release :=
  rfl

@[simp]
theorem backend_request : backend.request = request :=
  rfl

theorem inject_ensures (op : Op) (name : String) {done : Unit → MemoryLink → Prop} :
    (inject op name).Ensures done failed link
      ↔ if link.fault = some op then failed (refusal op name) link.disarmed else done () link := by
  simp [inject, refusal, disarmed]

theorem requireLink_ensures (name : String) (there : link.state.exists? = true) {done : Unit → MemoryLink → Prop} :
    (requireLink name).Ensures done failed link ↔ done () link := by
  simp [requireLink, there]

theorem acquire_ensures (name : String) (kind : Kind) {done : Queues → MemoryLink → Prop} :
    (acquire name kind).Ensures done failed link
      ↔ if link.fault = some .acquire then failed (refusal .acquire name) link.disarmed
        else done link.newQueues (link.opened kind) := by
  simp [acquire, inject_ensures, newQueues, nearEnd, origin, opened]

theorem mac_ensures (name : String) (there : link.state.exists? = true) {done : Mac → MemoryLink → Prop} :
    (backend.mac name).Ensures done failed link ↔ done link.state.mac link := by
  simp [backend, requireLink_ensures name there]

theorem mtu_ensures (name : String) (there : link.state.exists? = true) {done : UInt32 → MemoryLink → Prop} :
    (backend.mtu name).Ensures done failed link ↔ done link.state.mtu link := by
  simp [backend, requireLink_ensures name there]

theorem request_ensures (name : String) (change : Request) (there : link.state.exists? = true)
    {done : Unit → MemoryLink → Prop} :
    (request name change).Ensures done failed link
      ↔ if link.fault = some change.op then failed (refusal change.op name) link.disarmed
        else done () (link.granted [change]) := by
  have recorded : record change.op { link with state := link.state.apply change } = link.granted [change] := by
    cases change <;> rfl
  simp [request, inject_ensures, requireLink_ensures name there, recorded]

theorem release_ensures (name : String) (queues : Queues) {done : Unit → MemoryLink → Prop} :
    (release name queues).Ensures done failed link
      ↔ if link.fault = some .release then failed (refusal .release name) (link.released queues)
        else done () (link.released queues) := by
  by_cases refused : link.fault = some .release <;>
    simp [release, withdraw, inject_ensures, released, shut, refused]

theorem granted_exists (changes : List Request) : (link.granted changes).state.exists? = link.state.exists? :=
  link.state.grantAll_exists changes

theorem close_eq (descriptor : Descriptor) (link : MemoryLink) :
    ∃ pairs, link.close descriptor = { link with pairs } := by
  unfold close
  split
  · exact ⟨_, rfl⟩
  · exact ⟨link.pairs, rfl⟩

theorem shut_eq (queues : Queues) (link : MemoryLink) :
    ∃ pairs, link.shut queues =
      { link with
        peer := none
        pairs
        state := if link.attached then link.state else { link.state with exists? := false, adminUp := false } } := by
  obtain ⟨_, rx⟩ := close_eq queues.rx link.withdrawn
  obtain ⟨pairs, tx⟩ := close_eq queues.tx (link.withdrawn.close queues.rx)
  refine ⟨pairs, ?_⟩
  unfold shut
  rw [tx, rx]
  rfl

/-- An attached link survives its release, but for what the log tells. -/
theorem released_state_of_attached (queues : Queues) (attached : link.attached = true) :
    ∃ told, told ⊆ [Op.release]
      ∧ (link.released queues).state = { link.state with log := link.state.log ++ told } := by
  unfold released
  split
  · obtain ⟨pairs, shut⟩ := shut_eq queues link.disarmed
    refine ⟨[], by simp, ?_⟩
    rw [shut]
    simp [disarmed, attached]
  · obtain ⟨pairs, shut⟩ := shut_eq queues link
    refine ⟨[.release], by simp, ?_⟩
    rw [shut]
    simp [record, attached]

/-- A link that a release leaves has no peer, and if it was created it is gone. -/
theorem released_gone (link : MemoryLink) (queues : Queues) :
    (link.released queues).peer = none ∧ (link.released queues).attached = link.attached
      ∧ (link.attached = false →
        (link.released queues).state.exists? = false ∧ (link.released queues).state.adminUp = false) := by
  unfold released
  split
  · obtain ⟨pairs, shut⟩ := shut_eq queues link.disarmed
    rw [shut]
    exact ⟨rfl, rfl, fun created => by simp [disarmed, created]⟩
  · obtain ⟨pairs, shut⟩ := shut_eq queues link
    rw [shut]
    exact ⟨rfl, rfl, fun created => by simp [record, created]⟩

/-- A link that is told to refuse nothing takes everything back. -/
theorem takeBack_ensures (name : String) (undo : List Request) (there : link.state.exists? = true)
    (armless : link.fault = none) {ε : Type} {done : Unit → MemoryLink → Prop} {failed : ε → MemoryLink → Prop} :
    (backend.takeBack name undo).Ensures done failed link ↔ done () (link.granted undo) := by
  induction undo generalizing link with
  | nil => exact Iff.rfl
  | cons change rest ih =>
    have stays : (link.granted [change]).state.exists? = true := (granted_exists [change]).trans there
    have next := ih stays armless
    simp only [Backend.takeBack, backend_request, Call.ensures_bind, Call.ensures_attempt,
      request_ensures name change there, armless, reduceCtorEq, if_false]
    exact next

/-- The steps are taken in order, up to the first that the link was told to refuse. What takes back the steps
before it is the answer then. -/
theorem runSteps_ensures (name : String) (undo : List Request) (steps : List Step)
    (there : link.state.exists? = true) {done : Unit → MemoryLink → Prop} {failed : Setback → MemoryLink → Prop}
    (all : (∀ step ∈ steps, link.fault ≠ some step.request.op) →
      done () (link.granted (steps.map Step.request)))
    (part : ∀ before step after, steps = before ++ step :: after → link.fault = some step.request.op →
      (∀ earlier ∈ before, link.fault ≠ some earlier.request.op) →
      failed ⟨refusal step.request.op name, (before.filterMap Step.undo).reverse ++ undo⟩
        (link.granted (before.map Step.request)).disarmed) :
    (backend.runSteps name undo steps).Ensures done failed link := by
  induction steps generalizing link undo with
  | nil => exact all (by simp)
  | cons step rest ih =>
    simp only [Backend.runSteps, backend_request, Call.ensures_bind, Call.ensures_mapError, Call.ensures_logAll,
      request_ensures name step.request there]
    split
    · rename_i refused
      exact part [] step rest rfl refused (by simp)
    · rename_i free
      refine ih _ ((granted_exists [step.request]).trans there) (fun later => all (by simpa using ⟨free, later⟩)) ?_
      intro before next after steps refused earlier
      rw [← Step.undo_cons]
      exact part (step :: before) next after (congrArg (step :: ·) steps) refused (by simpa using ⟨free, earlier⟩)

end MemoryLink

end VirtualLink
