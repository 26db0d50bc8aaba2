import VirtualLink.Proofs.Counting
import VirtualLink.Proofs.Idle
import VirtualLink.Proofs.MemoryLink.TearDown
import VirtualLink.Proofs.Ready

namespace VirtualLink

open Call Driven

/-- What has passed since the last bring-up. -/
structure Period where
  /-- The payloads that the interface has sent, oldest first. -/
  sent : List Bytes := []
  /-- The frames that the peer has received, oldest first. -/
  received : List Bytes := []
  /-- The frames that the peer has sent, oldest first. -/
  offered : List Bytes := []
  /-- How many of these the interface has come to take. -/
  taken : Nat := 0

namespace Period

/-- The period after a move with this outcome. -/
def enter (period : Period) : Move → Move.Outcome → Period
  | .own .up, .own (.ok _) => {}
  | .own (.send packet), .own (.ok _) => { period with sent := period.sent ++ [packet.payload] }
  | .own .receive, .own (.ok _) | .own .receive, .own (.error (.frameTooLarge _)) =>
    { period with taken := min (period.taken + 1) period.offered.length }
  | .peerSend frame, .peerSend (.ok ()) => { period with offered := period.offered ++ [frame] }
  | .peerReceive, .peerReceive (.ok (some frame)) => { period with received := period.received ++ [frame] }
  | _, _ => period

/-- The period after the moves. -/
def keep (period : Period) : List Move → Driven MemoryLink → Period
  | [], _ => period
  | move :: rest, driven => (period.enter move (move.outcome driven)).keep rest (move.call driven).state

/-- What the peer has sent and the interface has not come to take. -/
def pending (period : Period) : List Bytes :=
  period.offered.drop period.taken

end Period

/-- A payload that holds a minimal datagram and goes into one frame. -/
def Packet.Fits (packet : Packet) (mtu : UInt32) : Prop :=
  68 ≤ packet.length ∧ packet.length ≤ mtu.toNat

namespace Ready

variable {standing : Standing} {pending : List Bytes} {driven : Driven MemoryLink}

/-- What is sent waits for the peer as it is. A refusal changes nothing. -/
theorem send (ready : Ready standing pending driven) (packet : Packet) :
    (Driven.send MemoryLink.backend packet).Ensures
      (fun _ after => packet.Fits driven.iface.settings.mtu
        ∧ after.backend.waiting = driven.backend.waiting ++ [packet.payload])
      (fun _ after => ¬ packet.Fits driven.iface.settings.mtu ∧ after = driven) driven := by
  obtain ⟨up, ⟨queues, held, ends, plugged⟩, _⟩ := ready
  have least : minMtu.toNat = 68 := rfl
  simp only [Driven.send, requireQueues, ensures_bind, ensures_iface?, held, up, ensures_pure, ensures_ite,
    ensures_fail, ensures_attempt, ensures_onBackend, least]
  split
  · exact ⟨fun fits => absurd fits.1 (by omega), trivial⟩
  · split
    · exact ⟨fun fits => absurd fits.2 (by omega), trivial⟩
    · have fits : packet.Fits driven.iface.settings.mtu := ⟨by omega, by omega⟩
      have whole : ¬ packet.payload.length ≠ packet.length := not_not_intro rfl
      refine MemoryLink.write_ensures (ends ▸ plugged) fun pairs _ waits => ?_
      simp only [ensures_log]
      rw [if_neg whole]
      exact ⟨fits, waits⟩

theorem peerSend (ready : Ready standing pending driven) (frame : Bytes) :
    (MemoryLink.peerSend frame).Ensures (fun _ after => after.waiting = driven.backend.waiting) (fun _ _ => False)
      driven.backend := by
  obtain ⟨_, ⟨queues, _, _, plugged⟩, _⟩ := ready
  exact MemoryLink.peerSend_ensures plugged fun _ _ _ waits => waits

theorem peerReceive (ready : Ready standing pending driven) :
    MemoryLink.peerReceive.Ensures
      (fun frame after => frame = driven.backend.waiting.head? ∧ after.waiting = driven.backend.waiting.tail)
      (fun _ _ => False) driven.backend := by
  obtain ⟨_, ⟨queues, _, _, plugged⟩, _⟩ := ready
  exact MemoryLink.peerReceive_ensures plugged fun _ _ _ waits => ⟨rfl, waits⟩

end Ready

/-- What waits for the peer has nothing to do with the counters. -/
theorem MemoryLink.waiting_unobserved (frames : List Bytes) :
    Unobserved MemoryLink.backend fun driven => driven.backend.waiting = frames where
  counters _ _ before := before
  readStat _ stat before :=
    (ensures_onBackend _).mpr (MemoryLink.readStat_ensures _ stat (fun _ _ => before) fun _ _ => before)

theorem Packet.arrival_refused {room : Nat} {frame : Option Bytes} {error : Error}
    (refused : .error error = arrival room frame) : ∃ length, error = .frameTooLarge length := by
  cases frame with
  | none => cases refused
  | some frame =>
    by_cases short : (frame.take room).length ≤ maxPayload
    · rw [arrival_short short] at refused
      cases refused
    · rw [arrival, if_pos (Nat.not_le.mp short)] at refused
      exact ⟨_, Except.error.inj refused⟩

namespace Move

variable {driven : Driven MemoryLink}

theorem outcome_own (action : Action) :
    (Move.own action).outcome driven = .own (action.call MemoryLink.backend driven).result :=
  rfl

theorem outcome_peerSend (frame : Bytes) :
    (Move.peerSend frame).outcome driven = .peerSend (MemoryLink.peerSend frame driven.backend).result :=
  rfl

theorem outcome_peerReceive :
    Move.peerReceive.outcome driven = .peerReceive (MemoryLink.peerReceive driven.backend).result :=
  rfl

end Move

/-- What the peer asks for without an end of a link is refused. -/
theorem MemoryLink.peerPair_unplugged {α : Type} {link : MemoryLink} (unplugged : link.peer = none)
    (next : Pair → Call PeerFault MemoryLink α) : ((peerPair >>= next) link).result = .error .unplugged := by
  have refused : (peerPair >>= next).Ensures (fun _ _ => False) (fun fault _ => fault = .unplugged) link :=
    (ensures_bind _ _).mpr (peerPair_refused unplugged rfl)
  cases answered : ((peerPair >>= next) link).result with
  | ok => exact (refused.of_ok answered).elim
  | error fault => rw [refused.of_error answered]

/-- The interface is down, and the peer has no end of the link. A link that was found is still there. -/
structure Severed (driven : Driven MemoryLink) : Prop where
  down : driven.iface.isUp = false
  unplugged : driven.backend.peer = none
  present : driven.backend.attached = true → driven.backend.state.exists? = true

/-- The interface is up, what it has sent was received by the peer or waits for it, and what the peer has sent was
taken or is on its way. -/
structure Period.Open (period : Period) (driven : Driven MemoryLink) : Prop where
  there : driven.backend.state.exists? = true
  ready : Ready driven.standing period.pending driven
  room : driven.standing.used = driven.iface.settings.mtu.toNat + frameOverhead
  taken : period.taken ≤ period.offered.length
  sent : period.sent = period.received ++ driven.backend.waiting

namespace Severed

variable {driven : Driven MemoryLink}

/-- Closing the queues takes the end of the link from the peer. -/
theorem of_released {iface : Interface} {link : MemoryLink} (down : iface.isUp = false)
    (present : link.attached = true → link.state.exists? = true) (queues : Queues) :
    Severed ⟨iface, link.released queues⟩ := by
  obtain ⟨unplugged, attached, _⟩ := link.released_gone queues
  refine ⟨down, unplugged, fun found => ?_⟩
  have was := attached.symm.trans found
  obtain ⟨_, _, state⟩ := MemoryLink.released_state_of_attached queues was
  change (link.released queues).state.exists? = true
  rw [state]
  exact present was

theorem step (severed : Severed driven) (move : Move) (stays : move ≠ .own .up) :
    Severed (move.call driven).state := by
  obtain ⟨settings, mtuChosen, tallies, counters, fault, idled⟩ :=
    Idled.step severed.down severed.unplugged move stays
  rw [idled]
  exact ⟨severed.down, severed.unplugged, severed.present⟩

/-- Nothing passes before the next bring-up. -/
theorem enter (severed : Severed driven) (period : Period) (move : Move) (stays : move ≠ .own .up) :
    period.enter move (move.outcome driven) = period := by
  cases move with
  | own action =>
    rw [Move.outcome_own]
    cases action with
    | up => exact absurd rfl stays
    | send packet =>
      have refused : Action.call MemoryLink.backend (.send packet) driven
          = ⟨.error (driven.iface.stateError "send"), driven, []⟩ :=
        bind_refused (send_refuses severed.down packet) _
      rw [refused]
      rfl
    | receive =>
      have refused : Action.call MemoryLink.backend .receive driven
          = ⟨.error (driven.iface.stateError "receive"), driven, []⟩ :=
        bind_refused (receive_refuses severed.down) _
      rw [refused]
      rfl
    | _ => rfl
  | peerSend frame =>
    have refused : (MemoryLink.peerSend frame driven.backend).result = .error .unplugged :=
      MemoryLink.peerPair_unplugged severed.unplugged _
    rw [Move.outcome_peerSend, refused]
    rfl
  | peerReceive =>
    have refused : (MemoryLink.peerReceive driven.backend).result = .error .unplugged :=
      MemoryLink.peerPair_unplugged severed.unplugged _
    rw [Move.outcome_peerReceive, refused]
    rfl
  | setStat | arm => rfl

/-- A bring-up makes a pair on which nothing is on its way yet, and one that fails closes it. -/
theorem up (severed : Severed driven) :
    (Driven.up MemoryLink.backend).Ensures (fun _ => Period.Open {}) (fun _ => Severed) driven := by
  obtain ⟨iface, link⟩ := driven
  have down : iface.isUp = false := severed.down
  have there := MemoryLink.opened_exists iface.kind severed.present
  refine MemoryLink.up_ensures there down ?invalid ?unopened ?exhausted ?stopped ?brought
  case invalid => exact fun _ _ => severed
  case unopened => exact fun _ => ⟨down, severed.unplugged, severed.present⟩
  case exhausted =>
    intro _
    refine of_released ?_ (fun _ => there) _
    exact down
  case stopped =>
    intro _ _ _ _ _ _
    refine of_released ?_ (fun _ => ?_) _
    · exact down
    · exact (MemoryLink.granted_exists _).trans ((MemoryLink.granted_exists _).trans there)
  case brought =>
    intro _ _ _ _
    exact
      { there := (MemoryLink.granted_exists _).trans there
        ready := MemoryLink.raised_ready _ _ _
        room := List.length_replicate
        taken := Nat.le_refl 0
        sent := (MemoryLink.opened_waiting iface.kind).symm }

end Severed

namespace Period.Open

variable {period : Period} {driven : Driven MemoryLink}

theorem down (opened : period.Open driven) :
    (Driven.down MemoryLink.backend).Ensures (fun _ => Severed) (fun _ => Severed) driven := by
  obtain ⟨queues, held, _⟩ := opened.ready.queues
  refine MemoryLink.down_closes opened.ready.up held fun lowered between down _ _ existence => ?_
  exact Severed.of_released down (fun _ => existence.trans opened.there) queues

/-- It is enough to look at what a move does to the frames that are on their way. -/
theorem advance {later : Period} (opened : period.Open driven) (move : Move) (stays : move ≠ .own .down)
    (taken : later.taken ≤ later.offered.length) (pending : later.pending = move.pendingAfter period.pending)
    (sent : later.sent = later.received ++ (move.call driven).state.backend.waiting) :
    later.Open (move.call driven).state := by
  have ready := opened.ready.step move stays
  have same : (move.call driven).state.standing = driven.standing := ready.stands
  have settings : (move.call driven).state.iface.settings = driven.iface.settings := congrArg Standing.settings same
  constructor
  case there => exact (congrArg (fun standing => standing.state.exists?) same).trans opened.there
  case ready =>
    rw [same, pending]
    exact ready
  case room =>
    rw [same, settings]
    exact opened.room
  case taken => exact taken
  case sent => exact sent

/-- A move that neither end sends or receives by. -/
theorem unmoved (opened : period.Open driven) (move : Move) (stays : move ≠ .own .down)
    (pending : move.pendingAfter period.pending = period.pending)
    (waiting : (move.call driven).state.backend.waiting = driven.backend.waiting) :
    period.Open (move.call driven).state :=
  opened.advance move stays opened.taken pending.symm (waiting.symm ▸ opened.sent)

theorem send (opened : period.Open driven) (packet : Packet) :
    (period.enter (.own (.send packet)) ((Move.own (.send packet)).outcome driven)).Open
      ((Move.own (.send packet)).call driven).state := by
  have sends : (Action.call MemoryLink.backend (.send packet)).Ensures
      (fun _ after => packet.Fits driven.iface.settings.mtu
        ∧ after.backend.waiting = driven.backend.waiting ++ [packet.payload])
      (fun _ after => ¬ packet.Fits driven.iface.settings.mtu ∧ after = driven) driven :=
    (ensures_map _ _).mpr (opened.ready.send packet)
  have stays : Move.own (.send packet) ≠ .own .down := by simp
  rw [Move.outcome_own]
  cases answered : (Action.call MemoryLink.backend (.send packet) driven).result with
  | ok answer =>
    refine opened.advance _ stays opened.taken rfl ?_
    change period.sent ++ [packet.payload]
      = period.received ++ (Action.call MemoryLink.backend (.send packet) driven).state.backend.waiting
    rw [(sends.of_ok answered).2, opened.sent, List.append_assoc]
  | error error =>
    have same : ((Move.own (.send packet)).call driven).state = driven := (sends.of_error answered).2
    rw [same]
    exact opened

theorem receive (opened : period.Open driven) :
    (period.enter (.own .receive) ((Move.own .receive).outcome driven)).Open
      ((Move.own .receive).call driven).state := by
  have receives : (Action.call MemoryLink.backend .receive).Ensures
      (fun _ after => after.backend.waiting = driven.backend.waiting)
      (fun error after => (∃ length, error = .frameTooLarge length)
        ∧ after.backend.waiting = driven.backend.waiting) driven :=
    (ensures_map _ _).mpr (opened.ready.receive.mono (fun _ _ received => received.2.2)
      fun _ _ received => ⟨Packet.arrival_refused received.1, received.2.2⟩)
  have waiting : ((Move.own .receive).call driven).state.backend.waiting = driven.backend.waiting :=
    Move.own_ensures (receives.mono (fun _ _ received => received) fun _ _ received => received.2)
  have took : { period with taken := min (period.taken + 1) period.offered.length }.Open
      ((Move.own .receive).call driven).state := by
    refine opened.advance _ (by simp) (Nat.min_le_right _ _) ?_ (waiting.symm ▸ opened.sent)
    change period.offered.drop (min (period.taken + 1) period.offered.length) = (period.offered.drop period.taken).tail
    rw [List.tail_drop]
    rcases Nat.le_total (period.taken + 1) period.offered.length with within | beyond
    · rw [Nat.min_eq_left within]
    · rw [Nat.min_eq_right beyond, List.drop_length, List.drop_eq_nil_of_le beyond]
  rw [Move.outcome_own]
  cases answered : (Action.call MemoryLink.backend .receive driven).result with
  | ok answer => exact took
  | error error =>
    obtain ⟨length, rfl⟩ := (receives.of_error answered).1
    exact took

theorem peerSend (opened : period.Open driven) (frame : Bytes) :
    (period.enter (.peerSend frame) ((Move.peerSend frame).outcome driven)).Open
      ((Move.peerSend frame).call driven).state := by
  have sends := opened.ready.peerSend frame
  rw [Move.outcome_peerSend]
  cases answered : (MemoryLink.peerSend frame driven.backend).result with
  | error fault => exact (sends.of_error answered).elim
  | ok =>
    refine opened.advance _ (by simp) ?_ ?_ ?_
    · change period.taken ≤ (period.offered ++ [frame]).length
      rw [List.length_append]
      exact Nat.le_add_right_of_le opened.taken
    · exact List.drop_append_of_le_length opened.taken
    · exact (sends.of_ok answered).symm ▸ opened.sent

theorem peerReceive (opened : period.Open driven) :
    (period.enter .peerReceive (Move.peerReceive.outcome driven)).Open (Move.peerReceive.call driven).state := by
  have receives := opened.ready.peerReceive
  have stays : Move.peerReceive ≠ .own .down := by simp
  rw [Move.outcome_peerReceive]
  cases answered : (MemoryLink.peerReceive driven.backend).result with
  | error fault => exact (receives.of_error answered).elim
  | ok arrived =>
    obtain ⟨head, left⟩ := receives.of_ok answered
    cases waits : driven.backend.waiting with
    | nil =>
      rw [waits] at head left
      subst head
      refine opened.unmoved _ stays rfl ?_
      rw [waits]
      exact left
    | cons frame rest =>
      rw [waits] at head left
      subst head
      refine opened.advance _ stays opened.taken rfl ?_
      change period.sent = (period.received ++ [frame]) ++ (MemoryLink.peerReceive driven.backend).state.waiting
      rw [left, opened.sent, waits, List.append_assoc]
      rfl

theorem setStat (opened : period.Open driven) (name : String) (value : UInt64) :
    period.Open ((Move.setStat name value).call driven).state := by
  have keeps : (MemoryLink.setStat name value).Ensures (fun _ after => after.waiting = driven.backend.waiting)
      (fun _ after => after.waiting = driven.backend.waiting) driven.backend := by
    simp only [MemoryLink.setStat, ensures_bind]
    cases Stat.ofName name <;> exact rfl
  exact opened.unmoved _ (by simp) rfl (ensures_state_iff.mp keeps)

/-- Whatever is done while the interface is up, no frame is lost, changed, doubled or overtaken. -/
theorem step (opened : period.Open driven) (move : Move) (stays : move ≠ .own .down) :
    (period.enter move (move.outcome driven)).Open (move.call driven).state := by
  cases move with
  | own action =>
    -- Settings and counters have nothing to do with what is on its way.
    have other (arrive : action ≠ .receive)
        (keeps : (action.call MemoryLink.backend).Keeps fun after =>
          after.backend.waiting = driven.backend.waiting) :
        period.Open ((Move.own action).call driven).state := by
      refine opened.unmoved _ stays ?_ (Move.own_ensures (keeps driven rfl))
      cases action <;> first | rfl | exact absurd rfl arrive
    cases action with
    | set setter => exact other (by simp) ((set_keeps (fun _ _ _ _ _ before => before) setter).map _)
    | up =>
      have refused : Action.call MemoryLink.backend .up driven
          = ⟨.error (driven.iface.stateError "up"), driven, []⟩ :=
        bind_refused (up_refuses opened.ready.up) _
      have same : ((Move.own .up).call driven).state = driven := congrArg Reply.state refused
      rw [Move.outcome_own, refused, same]
      exact opened
    | down => exact absurd rfl stays
    | send packet => exact opened.send packet
    | receive => exact opened.receive
    | readStat name => exact other (by simp) ((readStat_keeps (MemoryLink.waiting_unobserved _).observe name).map _)
    | clearStat name => exact other (by simp) (((MemoryLink.waiting_unobserved _).clear name).map _)
    | snapshot => exact other (by simp) ((snapshot_keeps (MemoryLink.waiting_unobserved _).observe).map _)
  | peerSend frame => exact opened.peerSend frame
  | peerReceive => exact opened.peerReceive
  | setStat name value => exact opened.setStat name value
  | arm op => exact opened.unmoved _ stays rfl rfl

end Period.Open

/-- The interface and its link are as the period tells. -/
inductive Period.Holds (period : Period) (driven : Driven MemoryLink) : Prop
  | severed (severed : Severed driven) (ordered : period.received <+: period.sent)
  | opened (opened : period.Open driven)

namespace Period.Holds

variable {period : Period} {driven : Driven MemoryLink}

theorem ordered (holds : period.Holds driven) : period.received <+: period.sent := by
  cases holds with
  | severed severed ordered => exact ordered
  | opened opened => exact ⟨_, opened.sent.symm⟩

theorem step (holds : period.Holds driven) (move : Move) :
    (period.enter move (move.outcome driven)).Holds (move.call driven).state := by
  cases holds with
  | severed severed ordered =>
    by_cases raise : move = .own .up
    · subst raise
      have raises : (Action.call MemoryLink.backend .up).Ensures (fun _ => Period.Open {}) (fun _ => Severed) driven :=
        (ensures_map _ _).mpr severed.up
      rw [Move.outcome_own]
      cases answered : (Action.call MemoryLink.backend .up driven).result with
      | ok answer => exact .opened (raises.of_ok answered)
      | error error => exact .severed (raises.of_error answered) ordered
    · rw [severed.enter period move raise]
      exact .severed (severed.step move raise) ordered
  | opened opened =>
    by_cases lower : move = .own .down
    · subst lower
      have closed : Severed ((Move.own .down).call driven).state :=
        Move.own_ensures ((ensures_map _ _).mpr opened.down)
      exact .severed closed ⟨_, opened.sent.symm⟩
    · exact .opened (opened.step move lower)

theorem run (holds : period.Holds driven) (moves : List Move) :
    (period.keep moves driven).Holds (Move.run moves driven) := by
  induction moves generalizing period driven with
  | nil => exact holds
  | cons move rest ih => exact ih (holds.step move)

end Period.Holds

/-- What the two ends of a link that is up get next. -/
structure Period.Serves (period : Period) (driven : Driven MemoryLink) : Prop where
  sends : ∀ packet : Packet, (Driven.send MemoryLink.backend packet driven).result = .ok ()
    ↔ packet.Fits driven.iface.settings.mtu
  delivers : (MemoryLink.peerReceive driven.backend).result = .ok period.sent[period.received.length]?
  drained : (MemoryLink.peerReceive driven.backend).result = .ok none → period.received = period.sent
  arrives : (Driven.receive MemoryLink.backend driven).result
    = Packet.arrival (driven.iface.settings.mtu.toNat + frameOverhead) period.offered[period.taken]?

theorem Period.Open.serves {period : Period} {driven : Driven MemoryLink} (opened : period.Open driven) :
    period.Serves driven := by
  have delivers : (MemoryLink.peerReceive driven.backend).result = .ok period.sent[period.received.length]? := by
    have next : period.sent[period.received.length]? = driven.backend.waiting.head? := by
      rw [opened.sent, List.getElem?_append_right (Nat.le_refl _), Nat.sub_self, List.head?_eq_getElem?]
    have receives := opened.ready.peerReceive
    cases answered : (MemoryLink.peerReceive driven.backend).result with
    | error fault => exact (receives.of_error answered).elim
    | ok arrived => rw [next, (receives.of_ok answered).1]
  refine ⟨fun packet => ?_, delivers, fun nothing => ?_, ?_⟩
  · have sends := opened.ready.send packet
    cases answered : (Driven.send MemoryLink.backend packet driven).result with
    | ok => exact ⟨fun _ => (sends.of_ok answered).1, fun _ => rfl⟩
    | error error => exact ⟨nofun, fun fits => absurd fits (sends.of_error answered).1⟩
  · have beyond := List.getElem?_eq_none_iff.mp (Except.ok.inj (delivers.symm.trans nothing))
    exact List.IsPrefix.eq_of_length_le ⟨_, opened.sent.symm⟩ beyond
  · rw [opened.ready.answer, opened.room, Period.pending, List.head?_drop]

/-- What the two ends of a link get while its interface is down. -/
structure Silent (driven : Driven MemoryLink) : Prop where
  sends : ∀ packet : Packet,
    (Driven.send MemoryLink.backend packet driven).result = .error (driven.iface.stateError "send")
  arrives : (Driven.receive MemoryLink.backend driven).result = .error (driven.iface.stateError "receive")
  offers : ∀ frame, (MemoryLink.peerSend frame driven.backend).result = .error .unplugged
  delivers : (MemoryLink.peerReceive driven.backend).result = .error .unplugged

theorem Severed.silent {driven : Driven MemoryLink} (severed : Severed driven) : Silent driven where
  sends packet := congrArg Reply.result (send_refuses severed.down packet)
  arrives := congrArg Reply.result (receive_refuses severed.down)
  offers _ := MemoryLink.peerPair_unplugged severed.unplugged _
  delivers := MemoryLink.peerPair_unplugged severed.unplugged _

/-- Whatever is done in whatever order: the peer receives what was sent in the same period, in order and each frame
once, and so does the interface. A payload is sent if and only if it fits, and one that is refused changes nothing. -/
theorem frames_pass_in_order (name : String) (id : UInt32) (kind : Kind) (root : RootId) (capacity number : Nat)
    (found : Option (UInt32 × Mac)) (moves : List Move) :
    let start : Driven MemoryLink := ⟨Interface.new name id kind root capacity, MemoryLink.fresh number found⟩
    let driven := Move.run moves start
    let period := Period.keep {} moves start
    period.received <+: period.sent
      ∧ (∀ packet, (Driven.send MemoryLink.backend packet driven).result ≠ .ok () →
        (Driven.send MemoryLink.backend packet driven).state = driven)
      ∧ (driven.iface.isUp = true → period.Serves driven)
      ∧ (driven.iface.isUp = false → Silent driven) := by
  intro start driven period
  have begin : Period.Holds {} start := by
    refine .severed ⟨rfl, ?_, fun attached => ?_⟩ (List.prefix_refl _)
    · cases found <;> rfl
    · cases found with
      | none => cases attached
      | some link => rfl
  have holds : period.Holds driven := begin.run moves
  refine ⟨holds.ordered, fun packet refused => ?_, fun up => ?_, fun down => ?_⟩
  · cases holds with
    | severed severed _ => rw [send_refuses severed.down packet]
    | opened opened =>
      have sends := opened.ready.send packet
      cases answered : (Driven.send MemoryLink.backend packet driven).result with
      | ok => exact absurd answered refused
      | error error => exact (sends.of_error answered).2
  · cases holds with
    | severed severed _ => exact absurd up (by simp [severed.down])
    | opened opened => exact opened.serves
  · cases holds with
    | severed severed _ => exact severed.silent
    | opened opened => exact absurd down (by simp [opened.ready.up])

end VirtualLink
