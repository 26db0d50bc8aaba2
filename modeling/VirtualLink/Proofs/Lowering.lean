import VirtualLink.Proofs.Enduring
import VirtualLink.Proofs.MemoryLink.TearDown
import VirtualLink.Proofs.Unwinding

namespace VirtualLink

open Call Driven

variable {ε σ : Type} {backend : Backend σ}

/-- The first error among some answers. -/
def firstError (answers : List (Except Error Unit)) : Option Error :=
  answers.findSome? fun
    | .ok () => none
    | .error error => some error

theorem firstError_append (first second : List (Except Error Unit)) :
    firstError (first ++ second) = (firstError first <|> firstError second) := by
  unfold firstError
  rw [List.findSome?_append]
  cases List.findSome? _ first <;> rfl

theorem firstError_eq_none {answers : List (Except Error Unit)} (granted : ∀ answer ∈ answers, answer.isOk) :
    firstError answers = none := by
  refine List.findSome?_eq_none_iff.mpr fun answer member => ?_
  cases answer with
  | ok => rfl
  | error error => exact absurd (granted _ member) (by simp [Except.isOk, Except.toBool])

theorem firstError_refused {α : Type} (refusals : List α) (error : Error) :
    firstError (refusals.map fun _ => .error error) = if refusals = [] then none else some error := by
  cases refusals <;> rfl

/-- What is asked about the counters of a link, in order and up to the first that cannot be read, and what they are
after it. -/
inductive Looked (name : String) : List Stat → Counters → List Turn → Counters → Prop
  | done (counters : Counters) : Looked name [] counters [] counters
  | unread {stat : Stat} {rest : List Stat} (counters : Counters) (error : Error) :
      Looked name (stat :: rest) counters [.readStat name stat.name (.error error)] counters
  | read {stat : Stat} {rest : List Stat} {counters after : Counters} {turns : List Turn} (reading : UInt64)
      (later : Looked name rest (counters.observe stat reading) turns after) :
      Looked name (stat :: rest) counters (.readStat name stat.name (.ok reading) :: turns) after

/-- The turns of a tear-down that makes these requests and ends with this result, each of them for the link of the
interface, and the counters that it leaves. It makes every request once and then releases the queues, whatever the
answers; its result is the first error among these. -/
inductive Dismantled (iface : Interface) (queues : Queues) (requests : List Request) :
    Except Error Unit → List Turn → Counters → Prop
  | mk {looks : List Turn} {counters : Counters} (looked : Looked iface.name Stat.all iface.counters looks counters)
      {answered : List (Request × Except Error Unit)} (whole : answered.map Prod.fst = requests)
      (answer : Except Error Unit) :
      Dismantled iface queues requests ((firstError (answered.map Prod.snd ++ [answer])).elim (.ok ()) .error)
        (looks ++ (answered.map (fun entry => .request iface.name entry.1 entry.2)
          ++ [.release iface.name queues answer]))
        (counters.retire queues.origin)

namespace Backend

theorem requestAll_transcribed (name : String) (changes : List Request) {before : Transcribed σ}
    {done : Option Error → Transcribed σ → Prop} {failed : ε → Transcribed σ → Prop}
    (made : ∀ (answered : List (Request × Except Error Unit)) state, answered.map Prod.fst = changes →
      done (firstError (answered.map Prod.snd))
        ⟨state, before.turns ++ answered.map fun entry => .request name entry.1 entry.2⟩) :
    (backend.transcribed.requestAll name changes).Ensures done failed before := by
  induction changes generalizing before done with
  | nil =>
    have nothing := made [] before.state rfl
    rw [List.map_nil, List.map_nil, List.append_nil] at nothing
    exact nothing
  | cons change rest ih =>
    have first (answer : Except Error Unit) (answered : List (Request × Except Error Unit)) (state : σ)
        (whole : answered.map Prod.fst = rest) :
        done (firstError (answer :: answered.map Prod.snd))
          ⟨state, before.turns ++ [.request name change answer]
            ++ answered.map fun entry => .request name entry.1 entry.2⟩ := by
      have all := made ((change, answer) :: answered) state (congrArg (change :: ·) whole)
      simp only [List.map_cons] at all
      rwa [List.append_cons] at all
    simp only [requestAll, ensures_bind, ensures_attempt]
    refine transcribed_ensures (fun _ state => ?granted) fun error state => ?refused
    case granted => exact ih fun answered later whole => first (.ok ()) answered later whole
    case refused =>
      simp only [ensures_bind, ensures_log, ensures_discard]
      exact ih fun answered later whole => first (.error error) answered later whole

/-- What becomes of the state while requests are made, whichever are refused, with the answers. -/
def outcome (backend : Backend σ) (name : String) : List Request → σ → List (Request × Except Error Unit) × σ
  | [], state => ([], state)
  | change :: rest, state =>
    let reply := backend.request name change state
    let later := backend.outcome name rest reply.state
    ((change, reply.result) :: later.1, later.2)

theorem outcome_append {name : String} (first second : List Request) (state : σ) :
    backend.outcome name (first ++ second) state
      = ((backend.outcome name first state).1
          ++ (backend.outcome name second (backend.outcome name first state).2).1,
        (backend.outcome name second (backend.outcome name first state).2).2) := by
  induction first generalizing state with
  | nil => rfl
  | cons change rest ih => simp only [List.cons_append, outcome, ih]

theorem outcome_requests {name : String} (changes : List Request) (state : σ) :
    (backend.outcome name changes state).1.map Prod.fst = changes := by
  induction changes generalizing state with
  | nil => rfl
  | cons change rest ih => simp only [outcome, List.map_cons, ih]

theorem requestAll_outcome {name : String} (changes : List Request) {before : Transcribed σ}
    {done : Option Error → Transcribed σ → Prop} {failed : ε → Transcribed σ → Prop}
    (made : done (firstError ((backend.outcome name changes before.state).1.map Prod.snd))
      ⟨(backend.outcome name changes before.state).2,
        before.turns ++ (backend.outcome name changes before.state).1.map fun entry => .request name entry.1 entry.2⟩) :
    (backend.transcribed.requestAll name changes).Ensures done failed before := by
  induction changes generalizing before done with
  | nil =>
    rw [outcome, List.map_nil, List.map_nil, List.append_nil] at made
    exact made
  | cons change rest ih =>
    let ended (answer : Except Error Unit) (state : σ) : Prop :=
      (backend.transcribed.requestAll name rest).Ensures (fun refused => done (firstError [answer] <|> refused)) failed
        ⟨state, before.turns ++ [.request name change answer]⟩
    have later : ended (backend.request name change before.state).result
        (backend.request name change before.state).state := by
      refine ih ?_
      rw [← firstError_append, ← List.append_cons]
      exact made
    simp only [requestAll, ensures_bind, ensures_attempt]
    refine ensures_transcribed.mpr ((ensures_result_iff.mpr later).mono (fun _ state granted => granted) ?_)
    intro error state refused
    simp only [ensures_bind, ensures_log, ensures_discard]
    exact refused

end Backend

/-- What a tear-down asks of a link of this origin that had this hardware address and this MTU before, in order. -/
def Interface.retractions (iface : Interface) (origin : Origin) (mac : Mac) (mtu : UInt32) : List Request :=
  [.setAdmin false] ++ iface.settings.ipv6.reverse.map (.delIpv6 · ipv6PrefixLength)
    ++ (if iface.settings.ipv4.isSome then [.clearIpv4] else [])
    ++ if origin = .attached then .setMtu mtu :: if iface.kind.isTap then [.setMac mac] else [] else []

namespace Driven

variable {iface : Interface} {before : Transcribed σ}

theorem observeAll_transcribed (up : iface.isUp = true) (stats : List Stat) {looked : Driven (Transcribed σ) → Prop}
    (seen : ∀ turns counters state, Looked iface.name stats iface.counters turns counters →
      looked ⟨{ iface with counters }, ⟨state, before.turns ++ turns⟩⟩) :
    (observeAll backend.transcribed stats).Ensures (fun _ => looked) (fun _ => looked) ⟨iface, before⟩ := by
  induction stats generalizing iface before with
  | nil =>
    have nothing := seen [] iface.counters before.state (.done _)
    rw [List.append_nil] at nothing
    exact nothing
  | cons stat rest ih =>
    simp only [observeAll, observe, ensures_bind, ensures_iface?]
    rw [if_pos up]
    simp only [ensures_bind, ensures_onBackend, ensures_update]
    refine transcribed_ensures (fun reading state => ?_) fun error state => ?_
    · refine ih up fun turns counters later all => ?_
      have whole := seen _ counters later (.read reading all)
      rw [List.append_cons] at whole
      exact whole
    · exact seen _ iface.counters state (.unread _ error)

theorem lastLook_transcribed (up : iface.isUp = true) {done : Unit → Driven (Transcribed σ) → Prop}
    {failed : ε → Driven (Transcribed σ) → Prop}
    (seen : ∀ turns counters state, Looked iface.name Stat.all iface.counters turns counters →
      done () ⟨{ iface with counters }, ⟨state, before.turns ++ turns⟩⟩) :
    (lastLook backend.transcribed).Ensures done failed ⟨iface, before⟩ := by
  simp only [lastLook, ensures_bind, ensures_attempt]
  have looks : (observeAll backend.transcribed Stat.all).Ensures (fun _ => done ()) (fun _ => done ())
      ⟨iface, before⟩ := observeAll_transcribed up Stat.all seen
  refine looks.mono (fun _ _ looked => ?_) fun error after looked => ?_
  · exact looked
  · simp only [ensures_bind, ensures_iface?, ensures_log]
    exact looked

theorem closeLink_transcribed {queues : Queues} (held : iface.pool.queues = some queues)
    {done : Origin × Option Error → Driven (Transcribed σ) → Prop} {failed : ε → Driven (Transcribed σ) → Prop}
    (closed : ∀ answer state, done (queues.origin, firstError [answer])
      ⟨iface.holding none, ⟨state, before.turns ++ [.release iface.name queues answer]⟩⟩) :
    (closeLink backend.transcribed).Ensures done failed ⟨iface, before⟩ := by
  simp only [closeLink, releaseQueues, ensures_bind, ensures_iface?, ensures_attempt, held, ensures_update,
    ensures_onBackend]
  refine transcribed_ensures (fun _ state => ?_) fun error state => ?_
  · exact closed (.ok ()) state
  · simp only [ensures_log]
    exact closed (.error error) state

theorem down_transcribed {queues : Queues} (up : iface.isUp = true) (held : iface.pool.queues = some queues)
    (ended : Except Error Unit → Driven (Transcribed σ) → Prop)
    (dismantled : ∀ result turns counters state, Dismantled iface queues iface.tearDown result turns counters →
      ended result ⟨iface.lowered counters, ⟨state, before.turns ++ turns⟩⟩) :
    (down backend.transcribed).Ensures (fun _ => ended (.ok ())) (fun error => ended (.error error))
      ⟨iface, before⟩ := by
  refine (down_ensures_iff up).mpr ((ensures_bind _ _).mpr ((ensures_bind _ _).mpr ?_))
  refine lastLook_transcribed up fun looks counters seen looked => ?_
  refine (ensures_bind _ _).mpr ((ensures_onBackend _).mpr ?_)
  refine Backend.requestAll_transcribed _ _ fun answered state whole => ?_
  have still : ({ iface with counters, restore := none } : Interface).pool.queues = some queues := held
  refine (ensures_bind _ _).mpr ((ensures_update _).mpr ((ensures_bind _ _).mpr ?_))
  refine closeLink_transcribed still fun release closed => ?_
  simp only [ensures_bind, ensures_update]
  have last := dismantled _ _ _ closed (.mk looked whole release)
  rw [firstError_append] at last
  simp only [← List.append_assoc] at last
  cases first : (firstError (answered.map Prod.snd) <|> firstError [release]) with
  | none =>
    rw [first] at last
    exact last
  | some error =>
    rw [first] at last
    exact last

/-- The interface was brought up by these turns, on a link that had this hardware address and this MTU. Since then the
link was only asked for its counters. -/
structure Raised (queues : Queues) (mac : Mac) (mtu : UInt32) (driven : Driven (Transcribed σ)) : Prop where
  up : driven.iface.isUp = true
  held : driven.iface.pool.queues = some queues
  restore : driven.iface.restore
    = if queues.origin = .attached then some ⟨if driven.iface.kind.isTap then some mac else none, mtu⟩ else none
  turns : ∃ earlier since, driven.backend.turns
      = earlier ++ (.acquire driven.iface.name driven.iface.kind (.ok queues) :: (driven.iface.looks mac mtu
        ++ (driven.iface.requests driven.iface.settings.mtu).map (.granted driven.iface.name))) ++ since
    ∧ ∀ turn ∈ since, ∃ stat answer, turn = .readStat driven.iface.name stat answer

namespace Raised

variable {queues : Queues} {mac : Mac} {mtu : UInt32} {driven : Driven (Transcribed σ)}

/-- What is restored is what the attached link had. -/
theorem tearDown_eq (raised : Raised queues mac mtu driven) :
    driven.iface.tearDown = driven.iface.retractions queues.origin mac mtu := by
  have addresses : (driven.iface.settings.ipv4.map fun _ => Request.clearIpv4).toList
      = if driven.iface.settings.ipv4.isSome then [.clearIpv4] else [] := by
    cases driven.iface.settings.ipv4 <;> rfl
  rw [Interface.tearDown, Settings.retractions, addresses, raised.restore, Interface.retractions]
  cases queues.origin <;> cases driven.iface.kind <;> rfl

theorem observed (raised : Raised queues mac mtu driven) (state : σ) (stat : String) (answer : Except Error UInt64) :
    Raised queues mac mtu
      ⟨driven.iface, ⟨state, driven.backend.turns ++ [.readStat driven.iface.name stat answer]⟩⟩ := by
  obtain ⟨up, held, restore, earlier, since, turns, looks⟩ := raised
  refine ⟨up, held, restore, earlier, since ++ [.readStat driven.iface.name stat answer], ?_, fun turn member => ?_⟩
  · rw [turns, List.append_assoc]
  · rcases List.mem_append.mp member with old | new
    · exact looks turn old
    · exact ⟨stat, answer, List.mem_singleton.mp new⟩

end Raised

/-- An interface that is up was brought up. -/
def Founded (driven : Driven (Transcribed σ)) : Prop :=
  driven.iface.isUp = true → ∃ queues mac mtu, Raised queues mac mtu driven

namespace Founded

variable {driven : Driven (Transcribed σ)}

theorem of_raised {after : Driven (Transcribed σ)} (founded : Founded driven)
    (same : after.iface.isUp = driven.iface.isUp)
    (still : ∀ queues mac mtu, Raised queues mac mtu driven → Raised queues mac mtu after) : Founded after := by
  intro up
  obtain ⟨queues, mac, mtu, raised⟩ := founded (same ▸ up)
  exact ⟨queues, mac, mtu, still queues mac mtu raised⟩

/-- Reading a frame or writing one leaves no turn. -/
theorem untold {α : Type} (call : Call ε σ α) :
    (onBackend (call.zoom Transcribed.state Transcribed.put)).Keeps Founded := by
  intro driven founded
  simp only [ensures_onBackend, ensures_zoom]
  unfold Ensures
  split <;> exact founded.of_raised rfl fun _ _ _ raised => ⟨raised.up, raised.held, raised.restore, raised.turns⟩

theorem lasting : Lasting backend.transcribed Founded where
  settings _ _ _ _ down _ up := absurd up (by simp [down])
  counters _ _ founded :=
    founded.of_raised rfl fun _ _ _ raised => ⟨raised.up, raised.held, raised.restore, raised.turns⟩
  readStat driven stat founded := by
    rw [ensures_onBackend]
    refine transcribed_ensures (fun reading state => ?_) fun error state => ?_
    · exact founded.of_raised rfl fun _ _ _ raised => raised.observed state stat (.ok reading)
    · exact founded.of_raised rfl fun _ _ _ raised => raised.observed state stat (.error error)
  write driven queues frame _ _ founded := untold (backend.write queues.tx frame) driven founded

theorem up : (Driven.up backend.transcribed).Keeps Founded := by
  rintro ⟨iface, before⟩ founded
  cases isUp : iface.isUp with
  | true => exact up_refused isUp founded
  | false =>
    have stays (pool : Pool) (state : Transcribed σ) : Founded (⟨{ iface with pool }, state⟩ : Driven _) :=
      fun raised => absurd raised (by simp [isUp])
    refine up_transcribed isUp (fun _ _ => stays iface.pool before)
      (fun _ turns pool state _ => stays pool ⟨state, before.turns ++ turns⟩) fun queues mac mtu state _ => ?_
    exact ⟨queues, mac, mtu, rfl, rfl, rfl, before.turns, [], (List.append_nil _).symm, by simp⟩

theorem down : (Driven.down backend.transcribed).Keeps Founded := by
  rintro ⟨iface, before⟩ founded
  cases isUp : iface.isUp with
  | false => exact down_refused isUp founded
  | true =>
    obtain ⟨queues, _, _, raised⟩ := founded isUp
    have lowered (counters : Counters) (state : Transcribed σ) :
        Founded (⟨iface.lowered counters, state⟩ : Driven (Transcribed σ)) := by
      intro stillUp
      cases stillUp
    exact down_transcribed isUp raised.held (fun _ => Founded) fun _ _ counters _ _ => lowered counters _

theorem call (action : Action) : (action.call backend.transcribed).Keeps Founded := by
  cases action with
  | up => exact up.map _
  | down => exact down.map _
  | receive =>
    refine Keeps.map _ (Lasting.receive fun driven queues _ _ founded => ?_)
    refine (untold (backend.read queues.rx _) driven founded).mono (fun _ _ still => ?_) fun _ _ still => still
    exact still.of_raised rfl fun _ _ _ raised => ⟨raised.up, raised.held, raised.restore, raised.turns⟩
  | _ => exact lasting.call _ (by simp) (by simp) (by simp)

theorem run (founded : Founded driven) (actions : List Action) :
    Founded (Action.run backend.transcribed actions driven) := by
  induction actions generalizing driven with
  | nil => exact founded
  | cons action rest ih => exact ih ((call action).after founded)

end Founded

end Driven

/-- A tear-down completes on any backend, however its calls fail. What it was that the link had before is told by the
turns of the bring-up, and what is made of it by those of the tear-down. -/
theorem down_completes (backend : Backend σ) (state : σ) (name : String) (id : UInt32) (kind : Kind) (root : RootId)
    (capacity : Nat) (actions : List Action) :
    let new := Interface.new name id kind root capacity
    let driven := Action.run backend.transcribed actions ⟨new, ⟨state, []⟩⟩
    let reply := Driven.down backend.transcribed driven
    driven.iface.isUp = true →
      Driven.down backend (Action.run backend actions ⟨new, state⟩)
        = ⟨reply.result, reply.state.seen Transcribed.state, reply.events⟩
      ∧ driven.iface.name = name ∧ driven.iface.kind = kind
      ∧ ∃ queues mac mtu turns counters, Raised queues mac mtu driven
        ∧ Dismantled driven.iface queues (driven.iface.retractions queues.origin mac mtu) reply.result turns counters
        ∧ reply.state.backend.turns = driven.backend.turns ++ turns
        ∧ reply.state.iface = driven.iface.lowered counters := by
  intro new driven reply up
  have same := backend.transcribed_mirrors
  have plain : Action.run backend actions ⟨new, state⟩ = driven.seen Transcribed.state :=
    same.run actions ⟨new, ⟨state, []⟩⟩
  have identity : driven.iface.identity = new.identity :=
    identity_run actions (⟨new, ⟨state, []⟩⟩ : Driven (Transcribed σ))
  have founded : Founded driven := by
    refine Founded.run (fun raised => ?_) actions
    cases raised
  obtain ⟨queues, mac, mtu, raised⟩ := founded up
  let ended (result : Except Error Unit) (after : Driven (Transcribed σ)) : Prop :=
    ∃ turns counters, Dismantled driven.iface queues driven.iface.tearDown result turns counters
      ∧ after.backend.turns = driven.backend.turns ++ turns ∧ after.iface = driven.iface.lowered counters
  have lowered : (Driven.down backend.transcribed).Ensures (fun _ => ended (.ok ()))
      (fun error => ended (.error error)) driven :=
    down_transcribed up raised.held ended fun _ turns counters _ dismantled => ⟨turns, counters, dismantled, rfl, rfl⟩
  obtain ⟨turns, counters, whole⟩ := ensures_result_iff.mp lowered
  rw [raised.tearDown_eq] at whole
  exact ⟨plain ▸ same.down driven, congrArg Interface.Identity.name identity,
    congrArg Interface.Identity.kind identity, queues, mac, mtu, turns, counters, raised, whole⟩

/-- An interface with an address that is up on a link that was there. The link is told to keep the address. -/
def MemoryLink.addressed : Driven (Transcribed MemoryLink) :=
  Action.run MemoryLink.backend.transcribed [.set (.ipv4 "10.0.0.2"), .up]
    ⟨Interface.new "tap0" 0 .tap 0 defaultCapacity, ⟨(existing 9000 initialMac).arm .clearIpv4, []⟩⟩

/-- The refusal is answered, and the link still gets its MTU back. -/
theorem down_completes_addressed :
    MemoryLink.addressed.iface.isUp = true
      ∧ (Driven.down MemoryLink.backend.transcribed MemoryLink.addressed).result.isOk = false
      ∧ ∃ queues mac mtu turns counters, Raised queues mac mtu MemoryLink.addressed
        ∧ Dismantled MemoryLink.addressed.iface queues
            (MemoryLink.addressed.iface.retractions queues.origin mac mtu)
            (Driven.down MemoryLink.backend.transcribed MemoryLink.addressed).result turns counters := by
  have up : MemoryLink.addressed.iface.isUp = true := by decide +kernel
  have refused : (Driven.down MemoryLink.backend.transcribed MemoryLink.addressed).result.isOk = false := by
    decide +kernel
  unfold MemoryLink.addressed at up refused ⊢
  obtain ⟨-, -, -, queues, mac, mtu, turns, counters, raised, dismantled, -⟩ :=
    down_completes MemoryLink.backend ((MemoryLink.existing 9000 initialMac).arm .clearIpv4) "tap0" 0 .tap 0
      defaultCapacity [.set (.ipv4 "10.0.0.2"), .up] up
  exact ⟨up, refused, queues, mac, mtu, turns, counters, raised, dismantled⟩

end VirtualLink
