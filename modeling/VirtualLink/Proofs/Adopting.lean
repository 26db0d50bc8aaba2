import VirtualLink.Proofs.Lowering
import VirtualLink.Proofs.Pending

namespace VirtualLink

open Call Driven

variable {σ : Type} {backend : Backend σ}

/-- A link is brought up once it is told to be up. -/
def Turn.raises : Turn → Bool
  | .request _ (.setAdmin true) (.ok ()) => true
  | _ => false

theorem Turn.raises_request {name : String} {change : Request} (other : change ≠ .setAdmin true)
    (answer : Except Error Unit) : (Turn.request name change answer).raises = false := by
  unfold raises
  split <;> simp_all

/-- What the calls of an interface so far have told of the sizes of its links. -/
structure Sighting where
  /-- The link that was opened last was there before. -/
  attached : Bool := false
  /-- The size that was read last. -/
  found : UInt32 := 0
  /-- The size of the last link that was there before and was brought up. -/
  adopted : Option UInt32 := none

namespace Sighting

def after (seen : Sighting) : Turn → Sighting
  | .acquire _ _ (.ok queues) => { seen with attached := queues.origin = .attached }
  | .mtu _ (.ok found) => { seen with found }
  | .request _ (.setAdmin true) (.ok ()) => if seen.attached then { seen with adopted := some seen.found } else seen
  | _ => seen

variable {seen : Sighting} {name : String}

theorem after_request {change : Request} (other : change ≠ .setAdmin true) (answer : Except Error Unit) :
    seen.after (.request name change answer) = seen := by
  unfold after
  split <;> simp_all

theorem after_adopted {turn : Turn} (other : turn.raises = false) : (seen.after turn).adopted = seen.adopted := by
  unfold after
  split
  · rfl
  · rfl
  · cases other
  · rfl

/-- Only a link that is brought up changes what was adopted last. -/
theorem foldl_adopted {turns : List Turn} (others : ∀ turn ∈ turns, turn.raises = false) :
    (turns.foldl after seen).adopted = seen.adopted := by
  induction turns generalizing seen with
  | nil => rfl
  | cons turn rest ih =>
    obtain ⟨other, later⟩ := List.forall_mem_cons.mp others
    exact (ih later).trans (after_adopted other)

theorem foldl_granted {changes : List Request} (others : .setAdmin true ∉ changes) :
    (changes.map (Turn.granted name)).foldl after seen = seen := by
  induction changes generalizing seen with
  | nil => rfl
  | cons change rest ih =>
    rw [List.mem_cons, not_or] at others
    obtain ⟨other, later⟩ := others
    rw [List.map_cons, List.foldl_cons, Turn.granted, after_request (Ne.symm other)]
    exact ih later

end Sighting

/-- The MTU of the last link that was there before and was brought up. -/
def Turn.lastAdopted (turns : List Turn) : Option UInt32 :=
  (turns.foldl Sighting.after {}).adopted

/-- The link that a turn asks for an MTU, and that MTU. -/
def Turn.size? : Turn → Option (String × UInt32)
  | .request name (.setMtu size) _ => some (name, size)
  | _ => none

namespace Interface

variable {iface : Interface}

/-- A bring-up tells the link to be up last, and only then. -/
theorem requests_eq_append (iface : Interface) (size : UInt32) :
    ∃ settling, iface.requests size = settling ++ [.setAdmin true] ∧ .setAdmin true ∉ settling := by
  refine ⟨_, rfl, ?_⟩
  simp only [List.mem_append, List.mem_map, Option.mem_toList, Option.map_eq_some_iff, List.mem_singleton, not_or]
  cases iface.kind.isTap <;> simp

theorem lastAdopted_append (turns : List Turn) {later : List Turn} (others : ∀ turn ∈ later, turn.raises = false) :
    Turn.lastAdopted (turns ++ later) = Turn.lastAdopted turns := by
  rw [Turn.lastAdopted, List.foldl_append]
  exact Sighting.foldl_adopted others

/-- A link that was there before and is brought up is the one that was adopted last. -/
theorem lastAdopted_broughtUp (turns : List Turn) (queues : Queues) (mac : Mac) (found size : UInt32) :
    Turn.lastAdopted (turns ++ .acquire iface.name iface.kind (.ok queues)
        :: (iface.looks mac found ++ (iface.requests size).map (.granted iface.name)))
      = if queues.origin = .attached then some found else Turn.lastAdopted turns := by
  obtain ⟨settling, whole, others⟩ := iface.requests_eq_append size
  have looked (seen : Sighting) : (iface.looks mac found).foldl Sighting.after seen = { seen with found } := by
    unfold looks
    cases iface.kind.isTap <;> rfl
  rw [Turn.lastAdopted, whole, List.map_append, List.foldl_append, List.foldl_cons, List.foldl_append,
    List.foldl_append, looked, Sighting.foldl_granted others]
  by_cases attached : queues.origin = .attached <;>
    simp [Sighting.after, Turn.granted, Turn.lastAdopted, attached]

/-- A bring-up asks for one size. -/
theorem sizes_broughtUp (mac : Mac) (found size : UInt32) :
    (iface.looks mac found ++ (iface.requests size).map (Turn.granted iface.name)).filterMap Turn.size?
      = [(iface.name, size)] := by
  have looked : (iface.looks mac found).filterMap Turn.size? = [] := by
    unfold looks
    cases iface.kind.isTap <;> rfl
  have optional {α : Type} (given : Option α) (request : α → Request)
      (other : ∀ a, Turn.size? (.granted iface.name (request a)) = none) :
      ((given.map request).toList.map (Turn.granted iface.name)).filterMap Turn.size? = [] := by
    cases given with
    | none => rfl
    | some a => simp [other]
  have mac : ((if iface.kind.isTap then [Request.setMac (chosenMac iface)] else []).map
      (Turn.granted iface.name)).filterMap Turn.size? = [] := by
    cases iface.kind.isTap <;> rfl
  rw [List.filterMap_append, looked, requests]
  simp only [List.map_append, List.filterMap_append, mac, optional _ Request.setIpv4 fun _ => rfl,
    optional _ Request.setNetmask fun _ => rfl, optional _ Request.setBroadcast fun _ => rfl, List.map_map]
  simp [Turn.size?, Turn.granted, Function.comp_def]

end Interface

/-- What takes a bring-up back does not bring up a link. -/
theorem Unwound.untold {iface : Interface} {error : Error} {turns : List Turn} (unwound : Unwound iface error turns) :
    ∀ turn ∈ turns, turn.raises = false := by
  cases unwound with
  | unopened => simp [Turn.raises]
  | unready unready answer => cases unready <;> simp [Turn.raises]
  | @refused queues mac mtu granted rest change cut undone inverse answer =>
    obtain ⟨settling, whole, others⟩ := iface.requests_eq_append (iface.mtuOn queues.origin mtu)
    have settles : .setAdmin true ∉ granted := by
      rw [whole] at cut
      have made : granted <+: settling := by
        rcases List.append_eq_append_iff.mp cut with ⟨middle, rfl, last⟩ | ⟨middle, rfl, _⟩
        · cases middle with
          | nil => simp
          | cons => simp at last
        · exact List.prefix_append ..
      exact fun member => others (made.subset member)
    have inverses : .setAdmin true ∉ undone.map Prod.fst := by
      rw [inverse, List.mem_reverse, List.mem_filterMap]
      rintro ⟨change, -, taken⟩
      cases change <;> simp [Request.inverse?] at taken
    have looks : ∀ turn ∈ iface.looks mac mtu, turn.raises = false := by
      unfold Interface.looks
      cases iface.kind.isTap <;> simp [Turn.raises]
    simp only [List.cons_append, List.forall_mem_cons, List.forall_mem_append, List.forall_mem_map]
    refine ⟨rfl, ⟨⟨looks, fun change member => ?_⟩, by simp [Turn.raises], fun entry member => ?_⟩, rfl, by simp⟩
    · exact Turn.raises_request (fun same => settles (same ▸ member)) (.ok ())
    · exact Turn.raises_request (fun same => inverses (same ▸ List.mem_map_of_mem member)) entry.2

theorem Looked.untold {name : String} {stats : List Stat} {counters after : Counters} {turns : List Turn}
    (looked : Looked name stats counters turns after) : ∀ turn ∈ turns, turn.raises = false := by
  induction looked with
  | done => simp
  | unread => simp [Turn.raises]
  | read reading later ih => exact List.forall_mem_cons.mpr ⟨rfl, ih⟩

theorem Dismantled.untold {iface : Interface} {queues : Queues} {result : Except Error Unit} {turns : List Turn}
    {counters : Counters} (dismantled : Dismantled iface queues iface.tearDown result turns counters) :
    ∀ turn ∈ turns, turn.raises = false := by
  obtain ⟨looked, whole, answer⟩ := dismantled
  rename_i answered
  have requests : .setAdmin true ∉ answered.map Prod.fst := by
    rw [whole, Interface.tearDown, Settings.retractions]
    cases iface.restore with
    | none => cases iface.settings.ipv4 <;> simp
    | some restore => cases iface.settings.ipv4 <;> cases restore.mac <;> simp [Restore.requests, *]
  simp only [List.forall_mem_append, List.forall_mem_map, List.forall_mem_singleton]
  refine ⟨looked.untold, fun entry member => ?_, rfl⟩
  exact Turn.raises_request (fun same => requests (same ▸ List.mem_map_of_mem member)) entry.2

namespace Setter

variable {iface after : Interface}

theorem Changed.size {setter : Setter} (changed : setter.Changed iface after) (other : setter.givesMtu = false) :
    after.settings.mtu = iface.settings.mtu := by
  cases changed with
  | mtu fits => cases other
  | _ => rfl

/-- An interface that is down has this for an MTU. -/
structure Sized (chosen : Bool) (size : UInt32) (iface : Interface) : Prop where
  down : iface.isUp = false
  mtuChosen : iface.mtuChosen = chosen
  mtu : iface.settings.mtu = size

variable {chosen : Bool} {size : UInt32}

theorem callAll_sized {setters : List Setter} (single : ∀ setter ∈ setters, ∀ given, setter ≠ .entry given)
    (others : ∀ setter ∈ setters, setter.givesMtu = false) : (callAll setters).Keeps (Sized chosen size) := by
  induction setters with
  | nil => exact fun _ before => before
  | cons setter rest ih =>
    rw [List.forall_mem_cons] at single others
    refine Keeps.bind (fun iface before => ?_) fun _ => ih single.2 others.2
    refine call_ensures before.down setter single.1 (fun _ => before) fun after changed => ?_
    exact ⟨changed.isUp.trans before.down, (changed.mtuChosen others.1).trans before.mtuChosen,
      (changed.size others.1).trans before.mtu⟩

/-- A setter that asks for no MTU leaves it alone. -/
theorem call_sized {setter : Setter} (other : setter.givesMtu = false) : setter.call.Keeps (Sized chosen size) := by
  intro iface before
  by_cases composite : ∃ given, setter = .entry given
  · obtain ⟨entry, rfl⟩ := composite
    refine (Interface.configure_ensures before.down entry).mpr
      (callAll_sized (single_of_mem_setters entry) (fun setter member => ?_) iface before)
    refine Bool.eq_false_iff.mpr fun gives => ?_
    have none : entry.mtu.isSome = false := other
    exact absurd (givesMtu_of_mem_setters entry setter member gives) (by simp [none])
  · have single : ∀ s ∈ [setter], ∀ given, s ≠ .entry given := by simpa using composite
    have alone := callAll_sized single (by simpa using other) iface before
    simp only [callAll, ensures_bind] at alone
    exact alone

end Setter

namespace Driven

/-- No MTU was chosen, so that the one to commit is the default or the one adopted last. -/
structure Adopting (driven : Driven (Transcribed σ)) : Prop where
  held : driven.iface.isUp = true → ∃ queues, driven.iface.pool.queues = some queues
  unchosen : driven.iface.mtuChosen = false
  mtu : driven.iface.settings.mtu = (Turn.lastAdopted driven.backend.turns).getD defaultMtu

namespace Adopting

variable {driven : Driven (Transcribed σ)}

/-- Neither what was counted nor what was read of a frame has a part in it, nor does a turn that brings up no link. -/
theorem told {after : Driven (Transcribed σ)} (adopting : Adopting driven) {turns : List Turn}
    (held : after.iface.isUp = true → ∃ queues, after.iface.pool.queues = some queues)
    (mtuChosen : after.iface.mtuChosen = driven.iface.mtuChosen)
    (mtu : after.iface.settings.mtu = driven.iface.settings.mtu)
    (whole : after.backend.turns = driven.backend.turns ++ turns) (others : ∀ turn ∈ turns, turn.raises = false) :
    Adopting after := by
  refine ⟨held, mtuChosen.trans adopting.unchosen, ?_⟩
  rw [whole, Interface.lastAdopted_append _ others]
  exact mtu.trans adopting.mtu

theorem untold {ε α : Type} (call : Call ε σ α) :
    (onBackend (call.zoom Transcribed.state Transcribed.put)).Keeps Adopting := by
  intro driven before
  simp only [ensures_onBackend, ensures_zoom]
  unfold Ensures
  split <;> exact ⟨before.held, before.unchosen, before.mtu⟩

theorem unobserved : Unobserved backend.transcribed Adopting where
  counters _ _ before := ⟨before.held, before.unchosen, before.mtu⟩
  readStat driven stat before := by
    rw [ensures_onBackend]
    exact transcribed_ensures
      (fun _ _ => before.told before.held rfl rfl rfl (by simp [Turn.raises]))
      fun _ _ => before.told before.held rfl rfl rfl (by simp [Turn.raises])

theorem up : (Driven.up backend.transcribed).Keeps Adopting := by
  rintro ⟨iface, transcribed⟩ before
  cases isUp : iface.isUp with
  | true => exact up_refused isUp before
  | false =>
    refine up_transcribed isUp ?invalid ?unwound ?brought
    case invalid => exact fun _ _ => before
    case unwound =>
      intro error turns pool state unwound
      exact before.told (fun up => absurd up (by simp [isUp])) rfl rfl rfl unwound.untold
    case brought =>
      intro queues mac mtu state
      refine ⟨fun _ => ⟨queues, rfl⟩, before.unchosen, ?_⟩
      have pending : iface.settings.mtu = (Turn.lastAdopted transcribed.turns).getD defaultMtu := before.mtu
      have unchosen : iface.mtuChosen = false := before.unchosen
      rw [Interface.lastAdopted_broughtUp]
      change iface.mtuOn queues.origin mtu = _
      by_cases attached : queues.origin = .attached <;> simp [Interface.mtuOn, attached, unchosen, pending]

theorem down : (Driven.down backend.transcribed).Keeps Adopting := by
  rintro ⟨iface, transcribed⟩ before
  cases isUp : iface.isUp with
  | false => exact down_refused isUp before
  | true =>
    obtain ⟨queues, held⟩ := before.held isUp
    refine down_transcribed isUp held (fun _ => Adopting) fun result turns counters state dismantled => ?_
    exact before.told (fun up => by cases up) rfl rfl rfl dismantled.untold

theorem set {setter : Setter} (other : setter.givesMtu = false) :
    (onInterface setter.call : Call Error (Driven (Transcribed σ)) Unit).Keeps Adopting := by
  rintro ⟨iface, transcribed⟩ before
  rw [ensures_onInterface]
  cases isUp : iface.isUp with
  | true =>
    unfold Ensures
    rw [Setter.refuses setter isUp]
    exact before
  | false =>
    have sized : Setter.Sized false ((Turn.lastAdopted transcribed.turns).getD defaultMtu) iface :=
      ⟨isUp, before.unchosen, before.mtu⟩
    have left (after : Interface)
        (sized : Setter.Sized false ((Turn.lastAdopted transcribed.turns).getD defaultMtu) after) :
        Adopting (⟨after, transcribed⟩ : Driven (Transcribed σ)) :=
      ⟨fun up => absurd up (by simp [sized.down]), sized.mtuChosen, sized.mtu⟩
    exact (Setter.call_sized other iface sized).mono (fun _ => left) fun _ => left

theorem call {action : Action} (unasked : ∀ setter, action = .set setter → setter.givesMtu = false) :
    (action.call backend.transcribed).Keeps Adopting := by
  cases action with
  | set setter => exact (set (unasked setter rfl)).map _
  | up => exact up.map _
  | down => exact down.map _
  | send packet =>
    exact (send_keeps (fun driven queues frame _ _ before => untold (backend.write queues.tx frame) driven before)
      packet).map _
  | receive =>
    refine Keeps.map _ (Lasting.receive fun driven queues up held before => ?_)
    refine (untold (backend.read queues.rx _) driven before).mono (fun _ after still => ?_) fun _ _ still => still
    exact still.told still.held rfl rfl (List.append_nil _).symm (by simp)
  | readStat name => exact (readStat_keeps unobserved.observe name).map _
  | clearStat name => exact (unobserved.clear name).map _
  | snapshot => exact (snapshot_keeps unobserved.observe).map _

theorem run {actions : List Action} (adopting : Adopting driven)
    (unasked : ∀ setter, .set setter ∈ actions → setter.givesMtu = false) :
    Adopting (Action.run backend.transcribed actions driven) := by
  induction actions generalizing driven with
  | nil => exact adopting
  | cons action rest ih =>
    refine ih ((call fun setter same => unasked setter ?_).after adopting) fun setter member =>
      unasked setter (List.mem_cons_of_mem _ member)
    exact same ▸ List.mem_cons_self ..

end Adopting

end Driven

/-- Without an MTU that was asked for, a link that is created gets the one adopted last, from a link that was there
before. It gets the default if and only if none was adopted or that one was of the default size as well. -/
theorem created_mtu_default_iff (backend : Backend σ) (state : σ) (name : String) (id : UInt32) (kind : Kind)
    (root : RootId) (capacity : Nat) (actions : List Action)
    (unasked : ∀ setter, .set setter ∈ actions → setter.givesMtu = false) :
    let new := Interface.new name id kind root capacity
    let driven := Action.run backend.transcribed actions ⟨new, ⟨state, []⟩⟩
    let reply := Driven.up backend.transcribed driven
    let adopted := Turn.lastAdopted driven.backend.turns
    reply.result = .ok () → reply.state.iface.origin = .created →
      Driven.up backend (Action.run backend actions ⟨new, state⟩)
          = ⟨reply.result, reply.state.seen Transcribed.state, reply.events⟩
        ∧ reply.state.iface.settings.mtu = adopted.getD defaultMtu
        ∧ (∃ queues turns,
          reply.state.backend.turns = driven.backend.turns ++ .acquire name kind (.ok queues) :: turns
          ∧ queues.origin = .created
          ∧ turns.filterMap Turn.size? = [(name, adopted.getD defaultMtu)]
          ∧ .granted name (.setMtu (adopted.getD defaultMtu)) ∈ turns)
        ∧ (reply.state.iface.settings.mtu = defaultMtu ↔ ∀ found, adopted = some found → found = defaultMtu) := by
  intro new driven reply adopted raised created
  have same := backend.transcribed_mirrors
  have plain : Action.run backend actions ⟨new, state⟩ = driven.seen Transcribed.state :=
    same.run actions ⟨new, ⟨state, []⟩⟩
  have identity : driven.iface.identity = new.identity :=
    identity_run actions (⟨new, ⟨state, []⟩⟩ : Driven (Transcribed σ))
  have named : driven.iface.name = name := congrArg Interface.Identity.name identity
  have kinded : driven.iface.kind = kind := congrArg Interface.Identity.kind identity
  have adopting : Adopting driven := by
    refine Adopting.run ⟨fun up => ?_, rfl, rfl⟩ unasked
    cases up
  have down : driven.iface.isUp = false := by
    refine Bool.eq_false_iff.mpr fun up => ?_
    have refused : reply.result = .error (driven.iface.stateError "up") := congrArg Reply.result (up_refuses up)
    rw [raised] at refused
    cases refused
  have brought : (Driven.up backend.transcribed).Ensures
      (fun _ after => after.iface.origin = .created → after.iface.settings.mtu = driven.iface.settings.mtu
        ∧ ∃ queues turns, after.backend.turns
            = driven.backend.turns ++ .acquire driven.iface.name driven.iface.kind (.ok queues) :: turns
          ∧ queues.origin = .created
          ∧ turns.filterMap Turn.size? = [(driven.iface.name, driven.iface.settings.mtu)]
          ∧ .granted driven.iface.name (.setMtu driven.iface.settings.mtu) ∈ turns)
      (fun _ _ => True) driven := by
    refine up_transcribed down (fun _ _ => trivial) (fun _ _ _ _ _ => trivial) fun queues mac mtu state created => ?_
    have origin : queues.origin = .created := created
    have committed : driven.iface.mtuOn queues.origin mtu = driven.iface.settings.mtu := by
      simp [Interface.mtuOn, origin]
    refine ⟨committed, queues, _, rfl, origin, ?_, ?_⟩
    · rw [Interface.sizes_broughtUp, committed]
    · rw [committed]
      simp [Interface.requests]
  obtain ⟨mtu, whole⟩ := brought.of_ok raised created
  rw [adopting.mtu] at mtu whole
  rw [named, kinded] at whole
  refine ⟨plain ▸ same.up driven, mtu, whole, ?_⟩
  change _ = adopted.getD defaultMtu at mtu
  rw [mtu]
  cases adopted with
  | none => simp
  | some found => simp

/-- A link that is there at first, and is created when it is opened again. -/
structure Passing where
  there : Bool := true
  mtu : UInt32

def Passing.link : Backend Passing where
  acquire _ _ := fun link =>
    if link.there then ⟨.ok ⟨⟨.packet, 0⟩, ⟨.packet, 1⟩, .attached⟩, link, []⟩
    else ⟨.ok ⟨⟨.tun, 0⟩, ⟨.tun, 1⟩, .created⟩, { link with mtu := defaultMtu }, []⟩
  release _ _ := Call.modify fun link => { link with there := false }
  mac _ := pure initialMac
  mtu _ := fun link => ⟨.ok link.mtu, link, []⟩
  request _ change := Call.modify fun link =>
    match change with
    | .setMtu mtu => { link with mtu }
    | _ => link
  readStat _ _ := pure 0
  read _ _ := pure []
  write _ frame := pure frame.length

/-- An interface that was up and down again on a link of this size. -/
def Passing.left (mtu : UInt32) : Driven (Transcribed Passing) :=
  Action.run link.transcribed [.up, .down] ⟨Interface.new "tap0" 0 .tap 0 defaultCapacity, ⟨{ mtu }, []⟩⟩

/-- The link that was there before was of the default size. -/
theorem created_mtu_default_iff_passing :
    (Driven.up Passing.link.transcribed (Passing.left 1500)).result = .ok ()
      ∧ (Driven.up Passing.link.transcribed (Passing.left 1500)).state.iface.origin = .created
      ∧ (Driven.up Passing.link.transcribed (Passing.left 1500)).state.iface.settings.mtu = defaultMtu := by
  have answered : (Driven.up Passing.link.transcribed (Passing.left 1500)).result.isOk = true := by decide +kernel
  have created : (Driven.up Passing.link.transcribed (Passing.left 1500)).state.iface.origin = .created := by
    decide +kernel
  have adopted : Turn.lastAdopted (Passing.left 1500).backend.turns = some defaultMtu := by decide +kernel
  have unasked : ∀ setter, .set setter ∈ [Action.up, .down] → setter.givesMtu = false := by simp
  unfold Passing.left at answered created adopted ⊢
  cases raised : (Driven.up Passing.link.transcribed (Action.run Passing.link.transcribed [.up, .down]
      ⟨Interface.new "tap0" 0 .tap 0 defaultCapacity, ⟨{ mtu := 1500 }, []⟩⟩)).result with
  | error error => simp [raised, Except.isOk, Except.toBool] at answered
  | ok =>
    obtain ⟨-, -, -, default⟩ := created_mtu_default_iff Passing.link { mtu := 1500 } "tap0" 0 .tap 0 defaultCapacity
      [.up, .down] unasked raised created
    refine ⟨rfl, created, default.mpr fun found same => ?_⟩
    exact Option.some.inj (same.symm.trans adopted)

/-- The link that is created gets the 9000 of the one that was there before, though nobody asked for it. -/
theorem created_mtu_adopted :
    let reply := Driven.up Passing.link.transcribed (Passing.left 9000)
    reply.result.isOk = true ∧ reply.state.iface.origin = .created ∧ reply.state.iface.settings.mtu = 9000
      ∧ reply.state.backend.state.mtu = 9000 ∧ reply.state.backend.state.mtu ≠ defaultMtu := by
  decide +kernel

end VirtualLink
