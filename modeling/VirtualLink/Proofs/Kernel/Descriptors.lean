import VirtualLink.Proofs.Custody
import VirtualLink.Proofs.Enduring
import VirtualLink.Proofs.Kernel.Handling
import VirtualLink.System.Machine

namespace VirtualLink

open Call Driven

variable {ε κ α β : Type}

namespace Handled

/-- These descriptors were opened and are still open. -/
def Opened (before : List Handling) (descriptors : List Descriptor) (after : Handled κ) : Prop :=
  after.handlings = before ++ descriptors.map .opened

/-- Whatever was opened was closed again. -/
def Undone (before : List Handling) (after : Handled κ) : Prop :=
  ∃ descriptors, after.handlings = before ++ Handling.undone descriptors

/-- To close a descriptor after all that came later completes the undoing. -/
theorem Undone.close {before : List Handling} {descriptor : Descriptor} {whole after : Handled κ}
    (undone : Undone whole.handlings after) (opened : Opened before [descriptor] whole) (state : κ) :
    Undone before ⟨state, after.handlings ++ [.closed descriptor]⟩ := by
  obtain ⟨later, told⟩ := undone
  refine ⟨descriptor :: later, ?_⟩
  rw [← Handling.opened_undone_closed]
  simp only [told, show whole.handlings = _ from opened, List.map_cons, List.map_nil, List.append_assoc,
    List.cons_append, List.nil_append]

end Handled

open Handled

namespace Call

/-- A call that neither opens nor closes a descriptor undoes nothing by failing. -/
theorem Leaves.ensures {call : Call ε (Handled κ) α} {whole : Handled κ} (quiet : call.Leaves Handled.handlings)
    {done : α → Handled κ → Prop} (onDone : ∀ a after, after.handlings = whole.handlings → done a after) :
    call.Ensures done (fun _ => Undone whole.handlings) whole :=
  (quiet whole.handlings whole rfl).mono onDone fun _ _ same => ⟨[], same.trans (List.append_nil _).symm⟩

end Call

namespace System

variable {system : System κ} {whole : Handled κ}

/-- What the record of a system tells of a call. -/
theorem handled_ensures {call : Syscall} {done : call.Answer → Handled κ → Prop}
    {failed : Errno → Handled κ → Prop}
    (onDone : ∀ a state, done a ⟨state, whole.handlings ++ (call.handling? (.ok a)).toList⟩)
    (onFailed : ∀ errno state, failed errno ⟨state, whole.handlings ++ (call.handling? (.error errno)).toList⟩) :
    (system.handled call).Ensures done failed whole := by
  unfold Ensures handled
  rcases system call whole.state with ⟨_ | _, _, _⟩
  · exact onFailed _ _
  · exact onDone _ _

theorem handled_quiet {call : Syscall} (untold : ∀ result, call.handling? result = none) :
    (system.handled call).Leaves Handled.handlings := by
  rintro _ whole rfl
  exact handled_ensures (fun a _ => by simp [untold]) fun errno _ => by simp [untold]

end System

namespace Kernel

variable {system : System κ} {whole : Handled κ}

theorem linkIndex_quiet (socket : Descriptor) (name : String) :
    (linkIndex system.handled socket name).Leaves Handled.handlings :=
  (System.handled_quiet fun _ => rfl).mapError _

/-- If the call undoes what it did before it fails, the descriptor is the last that is closed. -/
theorem orDiscard_ensures {before : List Handling} {descriptor : Descriptor} {call : Call ε (Handled κ) α}
    {done : α → Handled κ → Prop} (opened : Opened before [descriptor] whole)
    (ensures : call.Ensures done (fun _ => Undone whole.handlings) whole) :
    (orDiscard system.handled descriptor call).Ensures done (fun _ => Undone before) whole := by
  simp only [orDiscard, ensures_bind, ensures_attempt]
  refine ensures.mono (fun a after answer => answer) fun error after undone => ?_
  simp only [discardDescriptor, ensures_bind, ensures_discard, ensures_attempt]
  exact System.handled_ensures (fun _ state => undone.close opened state) fun _ state => undone.close opened state

theorem openControl_ensures :
    (openControl system.handled).Ensures
      (fun control => Opened whole.handlings [control.inet, control.inet6]) (fun _ => Undone whole.handlings)
      whole := by
  simp only [openControl, ensures_bind]
  refine (ensures_mapError _ _).mpr (System.handled_ensures (fun inet state => ?_) fun _ _ => ⟨[], rfl⟩)
  refine (ensures_bind _ _).mpr (orDiscard_ensures rfl ((ensures_mapError _ _).mpr ?_))
  exact System.handled_ensures (fun inet6 state => List.append_assoc ..) fun _ _ => ⟨[], rfl⟩

theorem bindPacketSocket_ensures (name : String) :
    (bindPacketSocket system.handled name).Ensures (fun bound => Opened whole.handlings [bound.1])
      (fun _ => Undone whole.handlings) whole := by
  simp only [bindPacketSocket, blame, ensures_bind]
  refine (ensures_mapError _ _).mpr (System.handled_ensures (fun socket state => ?_) fun _ _ => ⟨[], rfl⟩)
  have bound (index : Nat) :
      (blame "bind packet socket" name (system.handled (.bind socket index))).Leaves Handled.handlings :=
    (System.handled_quiet fun _ => rfl).mapError _
  refine orDiscard_ensures rfl ((ensures_bind _ _).mpr ((linkIndex_quiet socket name).ensures ?_))
  intro index resolved same
  rw [← same]
  exact (ensures_bind _ _).mpr ((bound index).ensures fun _ after still => still.trans same)

/-- The system knows a link of the name. -/
def Listed (system : System κ) (name : String) (state : κ) : Prop :=
  hasZeroByte (linkPath name) = false ∧ (system (.stat (linkPath name)) state).result.isOk

theorem linkExists_ensures (name : String) :
    (linkExists system.handled name : Call ε (Handled κ) Bool).Ensures
      (fun there after => after.handlings = whole.handlings ∧ (there ↔ Listed system name whole.state))
      (fun _ _ => False) whole := by
  unfold linkExists Listed
  cases hasZeroByte (linkPath name) with
  | true => simp
  | false =>
    simp only [Bool.false_eq_true, if_false, true_and, ensures_bind, ensures_attempt]
    unfold Ensures System.handled
    rcases system (.stat (linkPath name)) whole.state with ⟨_ | _, _, _⟩
    · exact ⟨List.append_nil _, iff_of_false Bool.false_ne_true Bool.false_ne_true⟩
    · exact ⟨List.append_nil _, iff_of_true rfl rfl⟩

theorem openQueue_ensures (name : String) (kind : Kind) :
    (openQueue system.handled name kind).Ensures (fun queue => Opened whole.handlings [queue])
      (fun _ => Undone whole.handlings) whole := by
  simp only [openQueue, blame, ensures_bind]
  refine (ensures_mapError _ _).mpr (System.handled_ensures (fun queue state => ?_) fun _ _ => ⟨[], rfl⟩)
  refine orDiscard_ensures rfl ((ensures_bind _ _).mpr ((ensures_mapError _ _).mpr ?_))
  exact (System.handled_quiet fun _ => rfl).ensures fun _ after same => same

/-- A descriptor and another one that is opened while the first is held. -/
theorem second_ensures {before : List Handling} {first : Descriptor} {call : Call ε (Handled κ) α}
    {descriptor : α → Descriptor} (opened : Opened before [first] whole)
    (ensures : call.Ensures (fun a => Opened whole.handlings [descriptor a]) (fun _ => Undone whole.handlings) whole) :
    (orDiscard system.handled first call).Ensures (fun a => Opened before [first, descriptor a])
      (fun _ => Undone before) whole := by
  refine orDiscard_ensures opened (ensures.mono (fun a after later => ?_) fun _ _ undone => undone)
  rw [Opened, later, opened, List.append_assoc]
  rfl

/-- An opening gives two open descriptors, and attaches if and only if the link was there, or it fails and has
closed whatever it opened. -/
theorem acquire_ensures (name : String) (kind : Kind) :
    (acquire system.handled name kind).Ensures
      (fun queues after => Opened whole.handlings [queues.rx, queues.tx] after
        ∧ (queues.origin = .attached ↔ Listed system name whole.state))
      (fun _ => Undone whole.handlings) whole := by
  simp only [acquire, ensures_bind]
  refine (linkExists_ensures name).mono (fun there looked known => ?_) fun _ _ never => never.elim
  obtain ⟨same, listed⟩ := known
  rw [← listed, ← same]
  cases there with
  | true =>
    simp only [if_true, ensures_bind, ensures_log]
    refine (bindPacketSocket_ensures name).mono (fun rx held opened => ?_) fun _ _ undone => undone
    refine (ensures_bind _ _).mpr ((second_ensures opened (bindPacketSocket_ensures name)).mono ?_ ?_)
    · exact fun tx after both => ⟨both, by simp⟩
    · exact fun _ _ undone => undone
  | false =>
    simp only [Bool.false_eq_true, if_false, ensures_bind, ensures_log]
    refine (openQueue_ensures name kind).mono (fun rx held opened => ?_) fun _ _ undone => undone
    refine (ensures_bind _ _).mpr ((second_ensures opened (openQueue_ensures name kind)).mono ?_ ?_)
    · exact fun tx after both => ⟨both, by simp⟩
    · exact fun _ _ undone => undone

theorem closeQueues_ensures (queues : Queues) :
    (closeQueues system.handled queues).Ensures
      (fun _ after => after.handlings = whole.handlings ++ [.closed queues.rx, .closed queues.tx])
      (fun _ after => after.handlings = whole.handlings ++ [.closed queues.rx, .closed queues.tx]) whole := by
  have answer (first second : Except Errno Unit) :
      (do discard (ofExcept first); discard (ofExcept second) : Call Errno (Handled κ) Unit).Leaves
        Handled.handlings := fun _ =>
    ((Keeps.ofExcept first).map _).bind fun _ => (Keeps.ofExcept second).map _
  -- The second descriptor is closed whatever came of the first.
  have rest (first : Except Errno Unit) (state : κ) :
      (do
        let second ← attempt (system.handled (.close queues.tx))
        discard (ofExcept first)
        discard (ofExcept second) : Call Errno (Handled κ) Unit).Ensures
          (fun _ after => after.handlings = whole.handlings ++ [.closed queues.rx, .closed queues.tx])
          (fun _ after => after.handlings = whole.handlings ++ [.closed queues.rx, .closed queues.tx])
          ⟨state, whole.handlings ++ [.closed queues.rx]⟩ := by
    refine (ensures_bind _ _).mpr ((ensures_attempt _).mpr (System.handled_ensures ?_ ?_))
    · exact fun _ _ => answer first _ _ _ (List.append_assoc ..)
    · exact fun _ _ => answer first _ _ _ (List.append_assoc ..)
  refine (ensures_bind _ _).mpr ((ensures_attempt _).mpr (System.handled_ensures ?_ ?_))
  · exact fun _ state => rest _ state
  · exact fun errno state => rest (.error errno) state

/-- Both descriptors are closed, once each, whether or not that fails. -/
theorem release_ensures (name : String) (queues : Queues) :
    (release system.handled name queues).Ensures
      (fun _ after => after.handlings = whole.handlings ++ [.closed queues.rx, .closed queues.tx])
      (fun _ after => after.handlings = whole.handlings ++ [.closed queues.rx, .closed queues.tx]) whole := by
  simp only [release, blame, ensures_bind, ensures_mapError]
  refine (closeQueues_ensures queues).mono (fun _ after closed => ?_) fun _ _ closed => closed
  split <;> exact closed

theorem setAdmin_quiet (control : Control) (name : String) (up : Bool) :
    (setAdmin system.handled control name up).Leaves Handled.handlings :=
  ((System.handled_quiet fun _ => rfl).mapError _).bind fun _ => (System.handled_quiet fun _ => rfl).mapError _

theorem ask_quiet (control : Control) (name action : String) {call : LinkCall}
    (untold : ∀ result, (Syscall.link control.inet (nameField name) call).handling? result = none) :
    (request.ask system.handled control name action call).Leaves Handled.handlings :=
  ((System.handled_quiet untold).map _).mapError _

theorem request_quiet (control : Control) (name : String) :
    ∀ change, (request system.handled control name change).Leaves Handled.handlings
  | .setMac _ | .setMtu _ | .setIpv4 _ | .setNetmask _ | .setBroadcast _ | .clearIpv4 =>
    ask_quiet control name _ fun _ => rfl
  | .addIpv6 _ _ | .delIpv6 _ _ => (linkIndex_quiet _ name).bind fun _ => (System.handled_quiet fun _ => rfl).mapError _
  | .setAdmin up => setAdmin_quiet control name up

theorem readStat_quiet (name stat : String) : (readStat system.handled name stat).Leaves Handled.handlings :=
  readStat_leaves (fun _ => System.handled_quiet fun _ => rfl) name stat

end Kernel

/-- What is exchanged in two parts is held between them. -/
theorem custody_append_iff {identity : Interface.Identity} {before after : Option Queues}
    {first second : List Exchange} :
    Custody identity before (first ++ second) after
      ↔ ∃ held, Custody identity before first held ∧ Custody identity held second after := by
  constructor
  · intro custody
    induction first generalizing before with
    | nil => exact ⟨before, .idle before, custody⟩
    | cons exchange rest ih =>
      cases custody with
      | asked later =>
        obtain ⟨held, earlier, later⟩ := ih later
        exact ⟨held, .asked earlier, later⟩
      | returned later =>
        obtain ⟨held, earlier, later⟩ := ih later
        exact ⟨held, .returned earlier, later⟩
  · rintro ⟨held, earlier, later⟩
    exact earlier.append later

def Kernel.Control.descriptors (control : Kernel.Control) : Multiset Descriptor :=
  {control.inet, control.inet6}

/-- The descriptors of an interface that holds these queues, if it holds any. -/
def queueDescriptors (held : Option Queues) : Multiset Descriptor :=
  (held.elim [] fun queues => [queues.rx, queues.tx] : List Descriptor)

/-- Besides the control sockets those descriptors are open that belong to the queues which the interface holds. -/
def Booked (control : Kernel.Control) (identity : Interface.Identity) (trace : List Exchange)
    (handlings : List Handling) : Prop :=
  ∀ held, Custody identity none trace held →
    Handling.replay 0 handlings = some (queueDescriptors held + control.descriptors)

namespace Booked

variable {control : Kernel.Control} {identity : Interface.Identity} {trace : List Exchange}
  {handlings : List Handling}

/-- What an exchange adds to one record, its handlings add to the other. -/
theorem exchange {exchange : Exchange} {later : List Handling} (booked : Booked control identity trace handlings)
    (told : ∀ before after, Custody identity before [exchange] after →
      Handling.replay (queueDescriptors before + control.descriptors) later
        = some (queueDescriptors after + control.descriptors)) :
    Booked control identity (trace ++ [exchange]) (handlings ++ later) := by
  intro held custody
  obtain ⟨before, earlier, last⟩ := custody_append_iff.mp custody
  rw [Handling.replay_append, booked before earlier]
  exact told before held last

theorem gave (booked : Booked control identity trace handlings) (name : String) (kind : Kind) (queues : Queues) :
    Booked control identity (trace ++ [.asked name kind (some queues)])
      (handlings ++ [queues.rx, queues.tx].map .opened) := by
  refine booked.exchange fun before after custody => ?_
  cases custody with
  | asked later =>
    cases later with
    | idle => exact Handling.replay_opened _ _

theorem refused (booked : Booked control identity trace handlings) (name : String) (kind : Kind)
    (descriptors : List Descriptor) :
    Booked control identity (trace ++ [.asked name kind none]) (handlings ++ Handling.undone descriptors) := by
  refine booked.exchange fun before after custody => ?_
  cases custody with
  | asked later =>
    cases later with
    | idle => exact Handling.replay_undone _ _

theorem returned (booked : Booked control identity trace handlings) (name : String) (queues : Queues) :
    Booked control identity (trace ++ [.returned name queues])
      (handlings ++ [queues.rx, queues.tx].map .closed) := by
  refine booked.exchange fun before after custody => ?_
  cases custody with
  | returned later =>
    cases later with
    | idle => exact Handling.replay_closed _ [queues.rx, queues.tx]

variable {system : System κ}

theorem quiet {call : Call ε (Handled κ) α} (quiet : call.Leaves Handled.handlings) :
    (onBackend (call.zoom Recorded.state Recorded.put)).Keeps
      fun driven => Booked control driven.iface.identity driven.backend.trace driven.backend.state.handlings := by
  intro driven booked
  simp only [ensures_onBackend, ensures_zoom]
  have still (after : Handled κ) (same : after.handlings = driven.backend.state.handlings) :
      Booked control driven.iface.identity driven.backend.trace after.handlings := same ▸ booked
  exact (quiet _ driven.backend.state rfl).mono (fun _ => still) fun _ => still

/-- Every call of the backend leaves the two records in agreement. -/
theorem enduring : Enduring (Kernel.backend system.handled control).recorded
    fun driven => Booked control driven.iface.identity driven.backend.trace driven.backend.state.handlings where
  iface _ _ same booked := by
    rw [← same] at booked
    exact booked
  acquire name kind driven booked := by
    simp only [Backend.recorded, Backend.zoom, ensures_onBackend, ensures_noted, ensures_zoom]
    refine (Kernel.acquire_ensures name kind).mono (fun queues after given => ?_) fun error after undone => ?_
    · change Booked control _ (driven.backend.trace ++ [.asked name kind (some queues)]) after.handlings
      rw [given.1]
      exact booked.gave name kind queues
    · change Booked control _ (driven.backend.trace ++ [.asked name kind none]) after.handlings
      obtain ⟨descriptors, undone⟩ := undone
      rw [undone]
      exact booked.refused name kind descriptors
  release name queues driven booked := by
    simp only [Backend.recorded, Backend.zoom, ensures_onBackend, ensures_noted, ensures_zoom]
    have shut (after : Handled κ) (closed : after.handlings = _) :
        Booked control driven.iface.identity (driven.backend.trace ++ [.returned name queues]) after.handlings :=
      closed ▸ booked.returned name queues
    exact (Kernel.release_ensures name queues).mono (fun _ => shut) fun _ => shut
  mac name := quiet ((System.handled_quiet fun _ => rfl).mapError _)
  mtu name := quiet ((System.handled_quiet fun _ => rfl).mapError _)
  request name change := quiet (Kernel.request_quiet control name change)
  readStat name stat := quiet (Kernel.readStat_quiet name stat)
  read descriptor limit := quiet (System.handled_quiet fun _ => rfl)
  write descriptor frame := quiet (System.handled_quiet fun _ => rfl)

end Booked

theorem Exchanged.none_of_failed_up {identity : Interface.Identity} {held after : Option Queues}
    {trace : List Exchange} (free : held = none) (exchanged : Exchanged identity .up held false trace after) :
    after = none := by
  cases exchanged with
  | nothing => exact free
  | refused => rfl
  | rolledBack => rfl

/-- The descriptors that a system has given and not taken back. -/
def Handled.held? (whole : Handled κ) : Option (Multiset Descriptor) :=
  Handling.replay 0 whole.handlings

/-- Besides the control sockets only the queues of the interface are open, and it has some if and only if it is
up. -/
structure Accounted (control : Kernel.Control) (driven : Driven (Handled κ)) : Prop where
  queues : driven.iface.pool.queues.isSome = driven.iface.isUp
  held : driven.backend.held? = some (queueDescriptors driven.iface.pool.queues + control.descriptors)

theorem Accounted.shut {control : Kernel.Control} {driven : Driven (Handled κ)} (accounted : Accounted control driven)
    (free : driven.iface.pool.queues = none) : driven.backend.held? = some control.descriptors := by
  rw [accounted.held, free]
  exact congrArg some (Multiset.zero_add _)

/-- Both records of a run: of the queues that are exchanged, and of the descriptors. -/
structure Audited (control : Kernel.Control) (driven : Driven (Recorded (Handled κ))) : Prop where
  custody : InCustody driven
  booked : Booked control driven.iface.identity driven.backend.trace driven.backend.state.handlings

namespace Audited

variable {system : System κ} {control : Kernel.Control} {driven : Driven (Recorded (Handled κ))}

/-- Right after the control sockets were opened, nothing else is open. -/
theorem start {whole : Handled κ} (opened : Opened [] [control.inet, control.inet6] whole) (name : String) (id : UInt32)
    (kind : Kind) (root : RootId) (capacity : Nat) :
    Audited control ⟨Interface.new name id kind root capacity, ⟨whole, []⟩⟩ := by
  refine ⟨⟨rfl, .idle none⟩, fun held custody => ?_⟩
  cases custody
  rw [show whole.handlings = _ from opened]
  exact Handling.replay_opened 0 [control.inet, control.inet6]

theorem run (audited : Audited control driven) (actions : List Action) :
    Audited control (Action.run (Kernel.backend system.handled control).recorded actions driven) :=
  ⟨audited.custody.run actions, Booked.enduring.run actions audited.booked⟩

theorem accounted (audited : Audited control driven) : Accounted control (driven.seen Recorded.state) :=
  ⟨audited.custody.held, audited.booked _ audited.custody.custody⟩

theorem step (audited : Audited control driven) (action : Action) :
    Audited control (action.call (Kernel.backend system.handled control).recorded driven).state :=
  ⟨audited.custody.step action, (Booked.enduring.call action).after audited.booked⟩

theorem shut (audited : Audited control driven) (free : driven.iface.pool.queues = none) :
    driven.backend.state.held? = some control.descriptors :=
  audited.accounted.shut free

/-- A bring-up that fails has returned the queues that it was given. -/
theorem failed_up (audited : Audited control driven) (down : driven.iface.isUp = false) {error : Error}
    (refused : (Driven.up (Kernel.backend system.handled control).recorded driven).result = .error error) :
    (Driven.up (Kernel.backend system.handled control).recorded driven).state.backend.state.held?
      = some control.descriptors := by
  have free : driven.iface.pool.queues = none :=
    Option.not_isSome_iff_eq_none.mp (by simp [audited.custody.held, down])
  obtain ⟨exchanges, -, exchanged⟩ := ((Took.up audited.custody.held).of_error refused).exchanged
  have later : Audited control (Action.up.call (Kernel.backend system.handled control).recorded driven).state :=
    audited.step .up
  rw [Action.call, state_map] at later
  exact later.shut (exchanged.none_of_failed_up free)

/-- A tear-down returns the queues, and one that is refused finds none. -/
theorem down (audited : Audited control driven) :
    (Driven.down (Kernel.backend system.handled control).recorded driven).state.backend.state.held?
      = some control.descriptors := by
  have free : (Driven.down (Kernel.backend system.handled control).recorded driven).state.iface.pool.queues = none := by
    have took (succeeded : Bool) (after : Driven (Recorded (Handled κ))) (took : Took .down driven succeeded after) :
        after.iface.pool.queues = none := by
      obtain ⟨exchanges, -, exchanged⟩ := took.exchanged
      exact exchanged.none_of_down
    exact ensures_state_iff.mp ((Took.down audited.custody.held).mono (fun _ => took true) fun _ => took false)
  have later : Audited control (Action.down.call (Kernel.backend system.handled control).recorded driven).state :=
    audited.step .down
  rw [Action.call, state_map] at later
  exact later.shut free

end Audited

/-- No descriptor is leaked, however the calls of the system fail. -/
theorem no_descriptor_leaked (system : System κ) :
    (∀ whole, (Kernel.openControl system.handled).Ensures
        (fun control => Opened whole.handlings [control.inet, control.inet6]) (fun _ => Undone whole.handlings) whole)
      ∧ (∀ name kind whole, (Kernel.acquire system.handled name kind).Ensures
          (fun queues after => Opened whole.handlings [queues.rx, queues.tx] after
            ∧ (queues.origin = .attached ↔ Kernel.Listed system name whole.state))
          (fun _ => Undone whole.handlings) whole)
      ∧ (∀ name queues whole, ((Kernel.release system.handled name queues) whole).state.handlings
          = whole.handlings ++ [.closed queues.rx, .closed queues.tx])
      ∧ ∀ state control, ((Kernel.openControl system.handled) ⟨state, []⟩).result = .ok control →
        ∀ name id kind root capacity actions,
          let backend := Kernel.backend system.handled control
          let opened := ((Kernel.openControl system.handled) ⟨state, []⟩).state
          let driven := Action.run backend actions ⟨Interface.new name id kind root capacity, opened⟩
          Action.run (Kernel.backend system control) actions ⟨Interface.new name id kind root capacity, opened.state⟩
              = driven.seen Handled.state
            ∧ Accounted control driven
            ∧ (driven.iface.isUp = false → ∀ error, (Driven.up backend driven).result = .error error →
                (Driven.up backend driven).state.backend.held? = some control.descriptors)
            ∧ (driven.iface.isUp = true → (Driven.up backend driven).state = driven)
            ∧ (Driven.down backend driven).state.backend.held? = some control.descriptors := by
  refine ⟨fun _ => Kernel.openControl_ensures, fun name kind _ => Kernel.acquire_ensures name kind,
    fun name queues whole => ensures_state_iff.mp (Kernel.release_ensures name queues), ?_⟩
  intro state control answer name id kind root capacity actions backend opened driven
  let start : Driven (Handled κ) := ⟨Interface.new name id kind root capacity, opened⟩
  let tracked := Action.run backend.recorded actions ⟨start.iface, ⟨opened, []⟩⟩
  have audited : Audited control tracked := (Audited.start (Kernel.openControl_ensures.of_ok answer) ..).run actions
  have same := backend.recorded_mirrors
  have seen : driven = tracked.seen Recorded.state := same.run actions ⟨start.iface, ⟨opened, []⟩⟩
  have raised := same.up tracked
  have lowered := same.down tracked
  rw [← seen] at raised lowered
  have plain := (Kernel.backend_mirrors system.handled_mirrors control).run actions start
  refine ⟨plain, seen ▸ audited.accounted, ?_, ?_, ?_⟩
  · intro down error refused
    rw [raised] at refused ⊢
    exact audited.failed_up (by rwa [seen] at down) refused
  · exact fun up => by rw [up_refuses up]
  · rw [lowered]
    exact audited.down

/-- A fresh machine opens its control sockets, with a record of its descriptors. -/
def Machine.control : Reply Error (Handled Machine) Kernel.Control :=
  (Kernel.openControl Machine.system.handled) ⟨Machine.fresh, []⟩

/-- A tap that was brought up on a fresh machine. -/
def Machine.raised (control : Kernel.Control) : Driven (Handled Machine) :=
  Action.run (Kernel.backend Machine.system.handled control) [.up]
    ⟨Interface.new "tap0" 0 .tap 0 defaultCapacity, Machine.control.state⟩

theorem no_descriptor_leaked_fresh :
    ∃ control, Machine.control.result = .ok control
      ∧ Accounted control (Machine.raised control)
      ∧ (Driven.down (Kernel.backend Machine.system.handled control) (Machine.raised control)).state.backend.held?
        = some control.descriptors := by
  have answered : Machine.control.result.isOk = true := by decide +kernel
  unfold Machine.control at answered
  unfold Machine.raised Machine.control
  cases opened : ((Kernel.openControl Machine.system.handled) ⟨Machine.fresh, []⟩).result with
  | error error => simp [opened, Except.isOk, Except.toBool] at answered
  | ok control =>
    obtain ⟨-, -, -, runs⟩ := no_descriptor_leaked Machine.system
    obtain ⟨-, accounted, -, -, down⟩ := runs Machine.fresh control opened "tap0" 0 .tap 0 defaultCapacity [.up]
    exact ⟨control, rfl, accounted, down⟩

/-- A bring-up that is refused because the interface is up leaves its queues open. -/
theorem refused_up_holds_queues :
    let control : Kernel.Control := ⟨⟨.inet, 3⟩, ⟨.inet6, 4⟩⟩
    let reply := Driven.up (Kernel.backend Machine.system.handled control) (Machine.raised control)
    Machine.control.result.toOption = some control ∧ reply.result.isOk = false
      ∧ reply.state.backend.held? = some ({⟨.tun, 5⟩, ⟨.tun, 6⟩} + control.descriptors)
      ∧ reply.state.backend.held? ≠ some control.descriptors := by
  decide +kernel

end VirtualLink
