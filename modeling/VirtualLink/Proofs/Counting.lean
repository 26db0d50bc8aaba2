import VirtualLink.Proofs.MemoryLink.Counted
import VirtualLink.Proofs.TearDown

namespace VirtualLink

open Call Driven

/-- What is counted of the traffic between an interface and the peer of its link. -/
inductive Flow
  | rxPackets
  | rxBytes
  | txPackets
  | txBytes
deriving DecidableEq

/-- The counter of the link for it. -/
def Flow.stat : Flow → Stat
  | .rxPackets => .rxPackets
  | .rxBytes => .rxBytes
  | .txPackets => .txPackets
  | .txBytes => .txBytes

/-- The frames that the peer has received and sent, oldest first, and how much of them was cleared. -/
structure Ledger where
  received : List Bytes := []
  sent : List Bytes := []
  cleared : Flow → Nat := fun _ => 0

namespace Ledger

def volume (ledger : Ledger) : Flow → Nat
  | .rxPackets => ledger.received.length
  | .rxBytes => ledger.received.flatten.length
  | .txPackets => ledger.sent.length
  | .txBytes => ledger.sent.flatten.length

/-- The ledger after a move with this outcome. -/
def enter (ledger : Ledger) : Move → Move.Outcome → Ledger
  | .peerSend frame, .peerSend (.ok ()) => { ledger with sent := ledger.sent ++ [frame] }
  | .peerReceive, .peerReceive (.ok (some frame)) => { ledger with received := ledger.received ++ [frame] }
  | .own (.clearStat name), .own (.ok _) =>
    { ledger with cleared := fun flow => if flow.stat.name = name then ledger.volume flow else ledger.cleared flow }
  | _, _ => ledger

end Ledger

def Move.outcome (move : Move) (driven : Driven MemoryLink) : Move.Outcome :=
  match (move.call driven).result with
  | .ok outcome => outcome
  | .error never => never.elim

/-- The ledger after the moves. -/
def Ledger.keep (ledger : Ledger) : List Move → Driven MemoryLink → Ledger
  | [], _ => ledger
  | move :: rest, driven => (ledger.enter move (move.outcome driven)).keep rest (move.call driven).state

/-- A look at a counter was told to fail, and did. -/
def MemoryLink.Struck (link after : MemoryLink) : Prop :=
  link.fault = some .readStat ∧ after.fault = none

instance (link after : MemoryLink) : Decidable (link.Struck after) :=
  inferInstanceAs (Decidable (_ ∧ _))

theorem MemoryLink.Struck.quiet {link between after : MemoryLink} (struck : link.Struck between)
    (quiet : between.Quiet after) : link.Struck after :=
  ⟨struck.1, quiet.fault.elim (·.trans struck.2) fun gone => gone⟩

theorem MemoryLink.Struck.releaseQueues {link : MemoryLink} {driven : Driven MemoryLink}
    (struck : link.Struck driven.backend) :
    (Driven.releaseQueues MemoryLink.backend).Ensures (fun _ after => link.Struck after.backend)
      (fun _ after => link.Struck after.backend) driven := by
  obtain ⟨iface, between⟩ := driven
  cases held : iface.pool.queues with
  | none =>
    simp only [Driven.releaseQueues, ensures_bind, ensures_iface?, held, ensures_pure]
    exact struck
  | some queues =>
    have closed : link.Struck (between.released queues) :=
      ⟨struck.1, between.released_fault queues |>.elim (·.trans struck.2) fun gone => gone⟩
    rw [MemoryLink.releaseQueues_ensures held]
    split <;> exact closed

/-- No look at a counter fails because it was told to. -/
def Move.Unstruck : List Move → Driven MemoryLink → Prop
  | [], _ => True
  | move :: rest, driven =>
    ¬ driven.backend.Struck (move.call driven).state.backend ∧ Move.Unstruck rest (move.call driven).state

/-- What the link has counted that its interface has not taken over yet. -/
def Driven.running (stat : Stat) (driven : Driven MemoryLink) : Nat :=
  if driven.iface.isUp = true ∨ driven.backend.attached = true then (driven.backend.counters.get stat).toNat else 0

instance Move.decidableUnstruck : ∀ moves driven, Decidable (Move.Unstruck moves driven)
  | [], _ => isTrue trivial
  | _ :: rest, _ => @instDecidableAnd _ _ _ (Move.decidableUnstruck rest _)

theorem Driven.running_of_up {stat : Stat} {driven : Driven MemoryLink} (up : driven.iface.isUp = true) :
    driven.running stat = (driven.backend.counters.get stat).toNat :=
  if_pos (.inl up)

theorem Driven.running_of_down {stat : Stat} {driven : Driven MemoryLink} (down : driven.iface.isUp = false) :
    driven.running stat
      = if driven.backend.attached = true then (driven.backend.counters.get stat).toNat else 0 := by
  simp only [running, down, Bool.false_eq_true, false_or]

/-- A counter of an interface and `running` of its link together have counted all of this volume, and so much of it
was cleared. Under the condition the interface has seen all of it. -/
structure Tally.Covers (tally : Tally) (running volume cleared : Nat) (seen : Prop) : Prop where
  whole : tally.carried.toNat + running = volume
  behind : tally.current.toNat ≤ running
  caughtUp : seen → tally.current.toNat = running
  baseline : tally.baseline.toNat = cleared
  clearedLe : cleared ≤ volume

namespace Tally.Covers

variable {tally : Tally} {running volume cleared : Nat} {seen seen' : Prop}

theorem mono (covers : tally.Covers running volume cleared seen) (less : seen' → seen) :
    tally.Covers running volume cleared seen' :=
  { covers with caughtUp := fun looked => covers.caughtUp (less looked) }

theorem observe {reading : UInt64} (covers : tally.Covers reading.toNat volume cleared seen) :
    (tally.observe reading).Covers reading.toNat volume cleared seen' := by
  have grows := UInt64.le_iff_toNat_le.mpr covers.behind
  rw [Tally.observe_of_le grows]
  exact { covers with behind := Nat.le_refl _, caughtUp := fun _ => rfl }

theorem total_eq (covers : tally.Covers running volume cleared True) (fits : volume < UInt64.size) :
    tally.total.toNat = volume := by
  have whole := covers.whole
  have all := covers.caughtUp trivial
  have small : tally.carried.toNat + tally.current.toNat < UInt64.size := by omega
  rw [Tally.toNat_total small]
  omega

theorem value_eq (covers : tally.Covers running volume cleared True) (fits : volume < UInt64.size) :
    tally.value.toNat + cleared = volume := by
  have total := covers.total_eq fits
  have baseline := covers.baseline
  have clearedLe := covers.clearedLe
  rw [Tally.value, toNat_subCapped, total, baseline]
  omega

theorem clear (covers : tally.Covers running volume cleared True) (fits : volume < UInt64.size) :
    tally.clear.Covers running volume volume True :=
  { covers with baseline := covers.total_eq fits, clearedLe := Nat.le_refl _ }

/-- What a created link has counted is carried once it is gone. -/
theorem retire (covers : tally.Covers running volume cleared True) (fits : volume < UInt64.size) (origin : Origin) :
    (tally.retire origin).Covers (if origin = .attached then running else 0) volume cleared True := by
  cases origin with
  | attached => exact covers
  | created =>
    have zero : (0 : UInt64).toNat = 0 := rfl
    exact
      { whole := covers.total_eq fits
        behind := Nat.le_of_eq zero
        caughtUp := fun _ => zero
        baseline := covers.baseline
        clearedLe := covers.clearedLe }

theorem grow (covers : tally.Covers running volume cleared seen) (amount : Nat) :
    tally.Covers (running + amount) (volume + amount) cleared False := by
  have whole := covers.whole
  have behind := covers.behind
  have clearedLe := covers.clearedLe
  exact
    { whole := by omega
      behind := by omega
      caughtUp := False.elim
      baseline := covers.baseline
      clearedLe := by omega }

end Tally.Covers

/-- A link is there while its interface is up or if it was found, and it has no peer while the interface is down. -/
structure Placed (driven : Driven MemoryLink) : Prop where
  present : driven.iface.isUp = true ∨ driven.backend.attached = true → driven.backend.state.exists? = true
  unplugged : driven.iface.isUp = false → driven.backend.peer = none
  held : driven.iface.isUp = true →
    ∃ queues, driven.iface.pool.queues = some queues ∧ queues.origin = driven.backend.origin

theorem Placed.quiet {driven : Driven MemoryLink} {after : MemoryLink} (placed : Placed driven)
    (quiet : driven.backend.Quiet after) : Placed { driven with backend := after } := by
  obtain ⟨_, attached, peer, existence, _⟩ := quiet
  have origin : after.origin = driven.backend.origin := by
    simp only [MemoryLink.origin, attached]
  constructor
  · rw [attached, existence]
    exact placed.present
  · rw [peer]
    exact placed.unplugged
  · rw [origin]
    exact placed.held

/-- What an interface and its link have counted is all of this volume, so much of it cleared, and while the interface
is down it has seen all of it. -/
structure Exact (stat : Stat) (volume cleared : Nat) (seen : Prop) (driven : Driven MemoryLink) : Prop where
  placed : Placed driven
  covers : (driven.iface.counters.tally stat).Covers (driven.running stat) volume cleared
    (seen ∨ driven.iface.isUp = false)

namespace Exact

variable {stat : Stat} {volume cleared : Nat} {seen : Prop} {driven : Driven MemoryLink}

theorem mono {seen' : Prop} (exact : Exact stat volume cleared seen driven) (less : seen' → seen) :
    Exact stat volume cleared seen' driven :=
  ⟨exact.placed, exact.covers.mono fun looked => looked.imp_left less⟩

theorem quiet {after : MemoryLink} (exact : Exact stat volume cleared seen driven)
    (quiet : driven.backend.Quiet after) : Exact stat volume cleared seen { driven with backend := after } := by
  have running : Driven.running stat { driven with backend := after } = driven.running stat := by
    simp only [Driven.running, quiet.counters, quiet.attached]
  refine ⟨exact.placed.quiet quiet, ?_⟩
  rw [running]
  exact exact.covers

/-- A look that is granted sees all that the link has counted. -/
theorem observe (exact : Exact stat volume cleared seen driven) (other : Stat) :
    (Driven.observe MemoryLink.backend other).Ensures
      (fun _ after => Exact stat volume cleared (seen ∨ other = stat) after
        ∧ after.iface.isUp = driven.iface.isUp ∧ after.backend.fault = driven.backend.fault)
      (fun _ after => driven.backend.Struck after.backend) driven := by
  obtain ⟨placed, covers⟩ := exact
  simp only [Driven.observe, ensures_bind, ensures_iface?, ensures_ite, ensures_onBackend, ensures_update,
    ensures_pure]
  split
  · rename_i up
    have there := placed.present (.inl up)
    change (MemoryLink.readStat _ _).Ensures _ _ _
    rw [MemoryLink.readStat_ensures_of_exists _ _ there]
    split
    · rename_i armed
      exact ⟨armed, rfl⟩
    · refine ⟨⟨⟨placed.present, placed.unplugged, placed.held⟩, ?_⟩, trivial, rfl⟩
      have running : driven.running stat = (driven.backend.counters.get stat).toNat := Driven.running_of_up up
      by_cases own : other = stat
      · subst own
        have looked : (driven.iface.counters.observe other (driven.backend.counters.get other)).tally other
            = (driven.iface.counters.tally other).observe (driven.backend.counters.get other) :=
          Counters.tally_update_self ..
        rw [running] at covers
        change (Counters.tally _ other).Covers (driven.running other) _ _ _
        rw [looked, running]
        exact covers.observe
      · have missed : (driven.iface.counters.observe other (driven.backend.counters.get other)).tally stat
            = driven.iface.counters.tally stat :=
          Counters.tally_update_of_ne _ _ (Ne.symm own)
        change (Counters.tally _ stat).Covers (driven.running stat) _ _ _
        rw [missed]
        exact covers.mono fun looked => looked.imp_left fun saw => saw.resolve_right own
  · rename_i down
    have resting : driven.iface.isUp = false := by simpa using down
    exact ⟨⟨placed, covers.mono fun _ => .inr resting⟩, trivial, trivial⟩

theorem observeAll (stats : List Stat) (exact : Exact stat volume cleared seen driven) :
    (Driven.observeAll MemoryLink.backend stats).Ensures
      (fun _ after => Exact stat volume cleared (seen ∨ stat ∈ stats) after
        ∧ after.iface.isUp = driven.iface.isUp ∧ after.backend.fault = driven.backend.fault)
      (fun _ after => driven.backend.Struck after.backend) driven := by
  induction stats generalizing driven seen with
  | nil => exact ⟨exact.mono fun looked => looked.resolve_right List.not_mem_nil, rfl, rfl⟩
  | cons other rest ih =>
    refine (ensures_bind _ _).mpr ((exact.observe other).mono (fun _ after looked => ?_) fun _ _ struck => struck)
    obtain ⟨still, up, armed⟩ := looked
    refine (ih still).mono (fun _ later all => ?_) fun _ later struck => ?_
    · refine ⟨all.1.mono fun either => ?_, all.2.1.trans up, all.2.2.trans armed⟩
      rw [List.mem_cons] at either
      rcases either with saw | own | among
      · exact .inl (.inl saw)
      · exact .inl (.inr own.symm)
      · exact .inr among
    · exact ⟨armed.symm.trans struck.1, struck.2⟩

/-- A counter that is read is all that was counted since it was last cleared. -/
theorem read (exact : Exact stat volume cleared seen driven) (fits : volume < UInt64.size) :
    (Driven.readStat MemoryLink.backend stat.name).Ensures (fun count _ => count.toNat + cleared = volume)
      (fun _ _ => driven.backend.fault = some .readStat) driven := by
  simp only [Driven.readStat, ensures_bind, Stat.ofName_name, ensures_ofExcept_ok]
  refine (exact.observe stat).mono (fun _ after looked => ?_) fun _ _ struck => struck.1
  exact (looked.1.covers.mono fun _ => .inl (.inr rfl)).value_eq fits

theorem clear (exact : Exact stat volume cleared seen driven) (fits : volume < UInt64.size) (name : String) :
    (Driven.clearStat MemoryLink.backend name).Ensures
      (fun _ => Exact stat volume (if stat.name = name then volume else cleared) seen)
      (fun _ after => driven.backend.Struck after.backend ∨ Exact stat volume cleared seen after) driven := by
  unfold Driven.clearStat
  rw [ensures_bind]
  cases found : Stat.ofName name with
  | error error => exact .inr exact
  | ok other =>
    rw [ensures_ofExcept_ok, ensures_bind]
    refine (exact.observe other).mono (fun _ after looked => ?_) fun _ _ struck => .inl struck
    simp only [ensures_bind, ensures_update, ensures_iface?, ensures_log]
    obtain ⟨⟨placed, covers⟩, _⟩ := looked
    refine ⟨⟨placed.present, placed.unplugged, placed.held⟩, ?_⟩
    change (Counters.tally (after.iface.counters.update other _) stat).Covers (after.running stat) _ _ _
    rw [Counters.tally_update, ← Stat.name_of_ofName found]
    by_cases own : other = stat
    · subst own
      have all : (after.iface.counters.tally other).Covers (after.running other) volume cleared True :=
        covers.mono fun _ => .inl (.inr rfl)
      rw [if_pos rfl, if_pos rfl]
      exact (all.clear fits).mono fun _ => trivial
    · have apart : stat.name ≠ other.name := fun same => own (Stat.name_injective same).symm
      rw [if_neg own, if_neg apart]
      exact covers.mono fun looked => looked.imp_left .inl

/-- While the interface is down, only what was found counts on. -/
theorem resting (iface : Interface) {after : MemoryLink} (exact : Exact stat volume cleared seen driven)
    (down : driven.iface.isUp = false) (still : iface.isUp = false)
    (tally : iface.counters.tally stat = driven.iface.counters.tally stat)
    (attached : after.attached = driven.backend.attached)
    (present : after.attached = true → after.state.exists? = true)
    (counters : after.attached = true → after.counters.get stat = driven.backend.counters.get stat)
    (unplugged : after.peer = none) : Exact stat volume cleared seen ⟨iface, after⟩ := by
  have running : Driven.running stat ⟨iface, after⟩ = driven.running stat := by
    rw [Driven.running_of_down still, Driven.running_of_down down, ← attached]
    split
    · rename_i found
      rw [counters found]
    · rfl
  refine ⟨⟨fun there => ?_, fun _ => unplugged, fun up => ?_⟩, ?_⟩
  · exact present (there.resolve_left (by simp [still]))
  · exact absurd up (by simp [still])
  · change (iface.counters.tally stat).Covers (Driven.running stat ⟨iface, after⟩) _ _ _
    rw [running, tally]
    exact exact.covers.mono fun _ => .inr down

theorem released (iface : Interface) {after : MemoryLink} (exact : Exact stat volume cleared seen driven)
    (down : driven.iface.isUp = false) (still : iface.isUp = false)
    (tally : iface.counters.tally stat = driven.iface.counters.tally stat)
    (attached : after.attached = driven.backend.attached)
    (present : after.attached = true → after.state.exists? = true)
    (counters : after.attached = true → after.counters.get stat = driven.backend.counters.get stat)
    (queues : Queues) : Exact stat volume cleared seen ⟨iface, after.released queues⟩ := by
  obtain ⟨unplugged, same, _⟩ := MemoryLink.released_gone after queues
  refine exact.resting iface down still tally (same.trans attached) (fun found => ?_) (fun found => ?_) unplugged
  · obtain ⟨told, _, state⟩ := MemoryLink.released_state_of_attached queues (same.symm.trans found)
    rw [state]
    exact present (same.symm.trans found)
  · rw [MemoryLink.released_counters]
    exact counters (same.symm.trans found)

theorem up (exact : Exact stat volume cleared False driven) :
    (Driven.up MemoryLink.backend).Ensures (fun _ => Exact stat volume cleared False)
      (fun _ => Exact stat volume cleared False) driven := by
  cases down : driven.iface.isUp with
  | true => exact up_refused down exact
  | false =>
    obtain ⟨iface, link⟩ := driven
    have there := MemoryLink.opened_exists iface.kind fun found => exact.placed.present (.inr found)
    have attached := link.opened_attached iface.kind
    have counters (found : (link.opened iface.kind).attached = true) :
        (link.opened iface.kind).counters.get stat = link.counters.get stat := by
      rw [MemoryLink.opened_counter, if_pos (attached.symm.trans found)]
    refine MemoryLink.up_ensures there down ?invalid ?unopened ?exhausted ?stopped ?brought
    case invalid => exact fun _ _ => exact
    case unopened => exact fun _ => exact.quiet MemoryLink.quiet_disarmed
    case exhausted =>
      exact fun _ => exact.released (iface.holding none) down down rfl attached (fun _ => there) counters _
    case stopped =>
      intro before step after _ _ _
      refine exact.released _ down ?_ ?_ ?_ (fun _ => ?_) ?_ link.newQueues
      · exact down
      · rfl
      · exact attached
      · exact (MemoryLink.granted_exists _).trans ((MemoryLink.granted_exists _).trans there)
      · exact counters
    case brought =>
      intro _ _ _ _
      have origin : link.newQueues.origin = (link.opened iface.kind).origin := (link.opened_origin iface.kind).symm
      refine ⟨⟨fun _ => ?_, fun never => ?_, fun _ => ⟨link.newQueues, rfl, origin⟩⟩, ?_⟩
      · exact (MemoryLink.granted_exists _).trans there
      · cases never
      · have fresh : ((link.opened iface.kind).counters.get stat).toNat = Driven.running stat ⟨iface, link⟩ := by
          rw [MemoryLink.opened_counter, Driven.running_of_down down]
          split <;> rfl
        change (iface.counters.tally stat).Covers ((link.opened iface.kind).counters.get stat).toNat _ _ _
        rw [fresh]
        exact exact.covers.mono fun _ => .inr down

/-- The closing of the queues retires the counters that were seen to the end. -/
theorem releaseQueues (exact : Exact stat volume cleared True driven) (up : driven.iface.isUp = true)
    (fits : volume < UInt64.size) :
    (Driven.releaseQueues MemoryLink.backend).Ensures
      (fun _ after => Exact stat volume cleared False (after.retired driven.iface.origin))
      (fun _ after => Exact stat volume cleared False (after.retired driven.iface.origin)) driven := by
  obtain ⟨iface, link⟩ := driven
  obtain ⟨⟨present, _, holds⟩, covers⟩ := exact
  obtain ⟨queues, held, origin⟩ := holds up
  obtain ⟨unplugged, attached, _⟩ := link.released_gone queues
  have closing : iface.origin = link.origin := by
    unfold Interface.origin
    rw [held]
    exact origin
  -- The counters are retired by the origin, and the link goes on counting if it was found.
  have found : iface.origin = .attached ↔ link.attached = true := by
    rw [closing, MemoryLink.origin]
    cases link.attached <;> simp
  have done : Exact stat volume cleared False
      (Driven.retired iface.origin ⟨iface.holding none, link.released queues⟩) := by
    refine ⟨⟨fun there => ?_, fun _ => unplugged, fun never => ?_⟩, ?_⟩
    · have stays := attached.symm.trans (there.resolve_left Bool.false_ne_true)
      obtain ⟨told, _, state⟩ := MemoryLink.released_state_of_attached queues stays
      change (link.released queues).state.exists? = true
      rw [state]
      exact present (.inr stays)
    · cases never
    · have running : Driven.running stat (Driven.retired iface.origin ⟨iface.holding none, link.released queues⟩)
          = if iface.origin = .attached then (link.counters.get stat).toNat else 0 := by
        rw [Driven.running_of_down rfl]
        simp only [Driven.retired, attached, MemoryLink.released_counters, found]
      have all : (iface.counters.tally stat).Covers (link.counters.get stat).toNat volume cleared True := by
        rw [Driven.running_of_up up] at covers
        exact covers.mono fun _ => .inl trivial
      rw [running]
      change (Counters.tally (iface.counters.retire iface.origin) stat).Covers _ _ _ _
      rw [Counters.tally_retire]
      exact (all.retire fits iface.origin).mono fun _ => trivial
  rw [MemoryLink.releaseQueues_ensures held]
  split <;> exact done

/-- A tear-down takes everything over that its last look saw. -/
theorem down (exact : Exact stat volume cleared False driven) (fits : volume < UInt64.size) :
    (Driven.down MemoryLink.backend).Ensures
      (fun _ after => driven.backend.Struck after.backend ∨ Exact stat volume cleared False after)
      (fun _ after => driven.backend.Struck after.backend ∨ Exact stat volume cleared False after) driven := by
  cases up : driven.iface.isUp with
  | false => exact down_refused up (.inr exact)
  | true =>
    -- Either the last look is struck, or the interface has then seen all that there is to take over.
    have look : (Driven.observeAll MemoryLink.backend Stat.all).Ensures
        (fun _ after => driven.backend.Struck after.backend
          ∨ Exact stat volume cleared True after ∧ after.iface.isUp = true)
        (fun _ after => driven.backend.Struck after.backend
          ∨ Exact stat volume cleared True after ∧ after.iface.isUp = true) driven := by
      refine (exact.observeAll Stat.all).mono (fun _ after looked => .inr ⟨looked.1.mono fun _ => ?_, ?_⟩)
        fun _ _ struck => .inl struck
      · exact .inr (List.mem_finRange stat)
      · exact looked.2.1.trans up
    refine down_ensures (fun name change after looked => ?_) (fun after looked => ?_) (fun after looked => ?_) up look
    · rw [ensures_onBackend]
      refine (MemoryLink.request_quiet name change).mono (fun _ later quiet => ?_) fun _ later quiet => ?_
      · exact looked.imp (·.quiet quiet) fun still => ⟨still.1.quiet quiet, still.2⟩
      · exact looked.imp (·.quiet quiet) fun still => ⟨still.1.quiet quiet, still.2⟩
    · refine looked.imp_right fun still => ⟨⟨?_, still.1.covers⟩, still.2⟩
      exact ⟨still.1.placed.present, still.1.placed.unplugged, still.1.placed.held⟩
    · rcases looked with struck | ⟨still, up⟩
      · exact struck.releaseQueues.mono (fun _ _ closed => .inl closed) fun _ _ closed => .inl closed
      · exact (still.releaseQueues up fits).mono (fun _ _ closed => .inr closed) fun _ _ closed => .inr closed

/-- Of the actions, only those that clear a counter change what was cleared. -/
theorem call (exact : Exact stat volume cleared False driven) (fits : volume < UInt64.size) (action : Action)
    (uncleared : ∀ name, action ≠ .clearStat name) :
    (action.call MemoryLink.backend).Ensures
      (fun _ after => driven.backend.Struck after.backend ∨ Exact stat volume cleared False after)
      (fun _ after => driven.backend.Struck after.backend ∨ Exact stat volume cleared False after) driven := by
  have kept {α : Type} {call : Call Error (Driven MemoryLink) α}
      (keeps : call.Keeps (Exact stat volume cleared False)) :
      call.Ensures (fun _ after => driven.backend.Struck after.backend ∨ Exact stat volume cleared False after)
        (fun _ after => driven.backend.Struck after.backend ∨ Exact stat volume cleared False after) driven :=
    (keeps driven exact).mono (fun _ _ still => .inr still) fun _ _ still => .inr still
  cases action with
  | set setter =>
    refine (ensures_map _ _).mpr (kept (set_keeps (fun link iface settings mtuChosen _ before => ?_) setter))
    exact ⟨⟨before.placed.present, before.placed.unplugged, before.placed.held⟩, before.covers⟩
  | up => exact (ensures_map _ _).mpr (exact.up.mono (fun _ _ raised => .inr raised) fun _ _ still => .inr still)
  | down => exact (ensures_map _ _).mpr (exact.down fits)
  | send packet =>
    refine (ensures_map _ _).mpr (kept (send_keeps (fun other queues frame _ _ before => ?_) packet))
    rw [ensures_onBackend]
    exact (MemoryLink.write_conveys queues.tx frame).mono (fun _ _ conveyed => before.quiet conveyed.quiet)
      fun _ _ conveyed => before.quiet conveyed.quiet
  | receive =>
    refine (ensures_map _ _).mpr (kept (Lasting.receive fun other queues _ _ before => ?_))
    rw [ensures_onBackend]
    refine (MemoryLink.read_conveys queues.rx other.iface.pool.used).mono (fun _ _ conveyed => ?_)
      fun _ _ conveyed => before.quiet conveyed.quiet
    have still := before.quiet conveyed.quiet
    exact ⟨⟨still.placed.present, still.placed.unplugged, still.placed.held⟩, still.covers⟩
  | readStat name =>
    simp only [Action.call, ensures_map, Driven.readStat, ensures_bind]
    cases Stat.ofName name with
    | error error => exact .inr exact
    | ok other =>
      rw [ensures_ofExcept_ok, ensures_bind]
      exact (exact.observe other).mono (fun _ _ looked => .inr (looked.1.mono False.elim))
        fun _ _ struck => .inl struck
  | clearStat name => exact absurd rfl (uncleared name)
  | snapshot =>
    simp only [Action.call, ensures_map, Driven.snapshot, ensures_bind]
    exact (exact.observeAll Stat.all).mono (fun _ _ looked => .inr (looked.1.mono False.elim))
      fun _ _ struck => .inl struck

/-- A frame that passes adds to what the link counts. -/
theorem pass (exact : Exact stat volume cleared False driven) (plugged : driven.backend.peer.isSome)
    {packets bytes : Stat} (apart : packets ≠ bytes) (frame : Bytes) (pairs : List Pair)
    (fits : volume + MemoryLink.share packets bytes stat frame < UInt64.size) :
    Exact stat (volume + MemoryLink.share packets bytes stat frame) cleared False
      { driven with
        backend := { driven.backend with pairs, counters := driven.backend.counted packets bytes frame } } := by
  obtain ⟨placed, covers⟩ := exact
  have up : driven.iface.isUp = true := by
    cases down : driven.iface.isUp with
    | true => rfl
    | false =>
      rw [placed.unplugged down] at plugged
      cases plugged
  refine ⟨⟨placed.present, placed.unplugged, placed.held⟩, ?_⟩
  have whole := covers.whole
  have running : driven.running stat = (driven.backend.counters.get stat).toNat := Driven.running_of_up up
  have grown : ((driven.backend.counted packets bytes frame).get stat).toNat
      = (driven.backend.counters.get stat).toNat + MemoryLink.share packets bytes stat frame :=
    MemoryLink.toNat_counted apart (by omega)
  have later : Driven.running stat
      { driven with backend := { driven.backend with pairs, counters := driven.backend.counted packets bytes frame } }
        = driven.running stat + MemoryLink.share packets bytes stat frame := by
    rw [running, ← grown]
    exact Driven.running_of_up up
  rw [later]
  refine (covers.grow _).mono fun looked => ?_
  rcases looked with never | down
  · exact never
  · exact absurd (up.symm.trans down) (by decide)

end Exact

namespace Ledger

variable (ledger : Ledger)

theorem volume_sent (frame : Bytes) (flow : Flow) :
    { ledger with sent := ledger.sent ++ [frame] }.volume flow
      = ledger.volume flow + MemoryLink.share .txPackets .txBytes flow.stat frame := by
  cases flow <;>
    simp [volume, MemoryLink.share, Flow.stat, Stat.rxPackets, Stat.rxBytes, Stat.txPackets, Stat.txBytes]

theorem volume_received (frame : Bytes) (flow : Flow) :
    { ledger with received := ledger.received ++ [frame] }.volume flow
      = ledger.volume flow + MemoryLink.share .rxPackets .rxBytes flow.stat frame := by
  cases flow <;>
    simp [volume, MemoryLink.share, Flow.stat, Stat.rxPackets, Stat.rxBytes, Stat.txPackets, Stat.txBytes]

/-- What was counted stays counted. -/
theorem volume_le_enter (move : Move) (outcome : Move.Outcome) (flow : Flow) :
    ledger.volume flow ≤ (ledger.enter move outcome).volume flow := by
  unfold enter
  split
  · rw [volume_sent]
    omega
  · rw [volume_received]
    omega
  · exact Nat.le_refl _
  · exact Nat.le_refl _

theorem volume_le_keep (moves : List Move) (driven : Driven MemoryLink) (flow : Flow) :
    ledger.volume flow ≤ (ledger.keep moves driven).volume flow := by
  induction moves generalizing ledger driven with
  | nil => exact Nat.le_refl _
  | cons move rest ih => exact Nat.le_trans (ledger.volume_le_enter move _ flow) (ih _ _)

end Ledger

/-- The interface and its link have counted what the ledger tells. -/
def Ledger.Kept (ledger : Ledger) (flow : Flow) (driven : Driven MemoryLink) : Prop :=
  Exact flow.stat (ledger.volume flow) (ledger.cleared flow) False driven

namespace Ledger.Kept

variable {ledger : Ledger} {flow : Flow} {driven : Driven MemoryLink}

theorem act (kept : ledger.Kept flow driven) (fits : ledger.volume flow < UInt64.size) (action : Action) :
    driven.backend.Struck ((Move.own action).call driven).state.backend
      ∨ (ledger.enter (.own action) ((Move.own action).outcome driven)).Kept flow
        ((Move.own action).call driven).state := by
  change driven.backend.Struck (action.call MemoryLink.backend driven).state.backend
    ∨ (ledger.enter (.own action) (.own (action.call MemoryLink.backend driven).result)).Kept flow
      (action.call MemoryLink.backend driven).state
  -- Of the actions, the ledger enters only those that clear a counter.
  by_cases clears : ∃ name, action = .clearStat name
  · obtain ⟨name, rfl⟩ := clears
    have cleared : (Action.call MemoryLink.backend (.clearStat name)).Ensures
        (fun _ => Exact flow.stat (ledger.volume flow)
          (if flow.stat.name = name then ledger.volume flow else ledger.cleared flow) False)
        (fun _ after => driven.backend.Struck after.backend ∨ ledger.Kept flow after) driven :=
      (ensures_map _ _).mpr (Exact.clear kept fits name)
    cases answered : (Action.call MemoryLink.backend (.clearStat name) driven).result with
    | ok answer => exact .inr (cleared.of_ok answered)
    | error error => exact cleared.of_error answered
  · have uncleared (name : String) : action ≠ .clearStat name := fun same => clears ⟨name, same⟩
    have same : ledger.enter (.own action) (.own (action.call MemoryLink.backend driven).result) = ledger := by
      cases action <;> first | rfl | exact absurd rfl (uncleared _)
    rw [same]
    exact ensures_state_iff.mp (Exact.call kept fits action uncleared)

/-- Every move leaves the interface and its link in accord with the ledger. -/
theorem step (kept : ledger.Kept flow driven) (move : Move) (unset : ∀ name value, move ≠ .setStat name value)
    (unstruck : ¬ driven.backend.Struck (move.call driven).state.backend)
    (fits : (ledger.enter move (move.outcome driven)).volume flow < UInt64.size) :
    (ledger.enter move (move.outcome driven)).Kept flow (move.call driven).state := by
  have before := Nat.lt_of_le_of_lt (ledger.volume_le_enter move (move.outcome driven) flow) fits
  cases move with
  | own action => exact (kept.act before action).resolve_left unstruck
  | peerSend frame =>
    change (ledger.enter (.peerSend frame) (.peerSend (MemoryLink.peerSend frame driven.backend).result)).Kept flow
      ⟨driven.iface, (MemoryLink.peerSend frame driven.backend).state⟩
    change (ledger.enter (.peerSend frame) (.peerSend (MemoryLink.peerSend frame driven.backend).result)).volume flow
      < UInt64.size at fits
    have counted := driven.backend.peerSend_counted frame
    cases answered : (MemoryLink.peerSend frame driven.backend).result with
    | error error => exact Exact.quiet kept (counted.of_error answered).quiet
    | ok =>
      obtain ⟨plugged, pairs, after⟩ := counted.of_ok answered
      rw [answered] at fits
      have apart : Stat.txPackets ≠ Stat.txBytes := by decide
      rw [after]
      unfold Kept
      rw [enter, volume_sent] at fits ⊢
      exact Exact.pass kept plugged apart frame pairs fits
  | peerReceive =>
    change (ledger.enter .peerReceive (.peerReceive (MemoryLink.peerReceive driven.backend).result)).Kept flow
      ⟨driven.iface, (MemoryLink.peerReceive driven.backend).state⟩
    change (ledger.enter .peerReceive (.peerReceive (MemoryLink.peerReceive driven.backend).result)).volume flow
      < UInt64.size at fits
    have counted := driven.backend.peerReceive_counted
    cases answered : (MemoryLink.peerReceive driven.backend).result with
    | error error => exact Exact.quiet kept (counted.of_error answered).quiet
    | ok arrived =>
      have taken := counted.of_ok answered
      rw [answered] at fits
      cases arrived with
      | none => exact Exact.quiet kept taken.quiet
      | some frame =>
        obtain ⟨plugged, pairs, after⟩ := taken
        have apart : Stat.rxPackets ≠ Stat.rxBytes := by decide
        rw [after]
        unfold Kept
        rw [enter, volume_received] at fits ⊢
        exact Exact.pass kept plugged apart frame pairs fits
  | setStat name value => exact absurd rfl (unset name value)
  | arm op => exact ⟨⟨kept.placed.present, kept.placed.unplugged, kept.placed.held⟩, kept.covers⟩

theorem run (kept : ledger.Kept flow driven) (moves : List Move) (unset : ∀ name value, .setStat name value ∉ moves)
    (unstruck : Move.Unstruck moves driven) (fits : (ledger.keep moves driven).volume flow < UInt64.size) :
    (ledger.keep moves driven).Kept flow (Move.run moves driven) := by
  induction moves generalizing ledger driven with
  | nil => exact kept
  | cons move rest ih =>
    obtain ⟨spared, later⟩ := unstruck
    have so := Nat.lt_of_le_of_lt (volume_le_keep _ rest (move.call driven).state flow) fits
    have next := kept.step move (fun name value same => unset name value (same ▸ List.mem_cons_self ..)) spared so
    exact ih next (fun name value among => unset name value (List.mem_cons_of_mem _ among)) later fits

end Ledger.Kept

/-- A link that only one interface drives, as it is before that: there already with this MTU and MAC, or not. -/
def MemoryLink.fresh (id : Nat) : Option (UInt32 × Mac) → MemoryLink
  | none => { id }
  | some (mtu, mac) => { existing mtu mac with id }

/-- An interface and its link begin with an empty ledger. -/
theorem Ledger.kept_fresh (name : String) (id : UInt32) (kind : Kind) (root : RootId) (capacity number : Nat)
    (found : Option (UInt32 × Mac)) (flow : Flow) :
    Ledger.Kept {} flow ⟨Interface.new name id kind root capacity, MemoryLink.fresh number found⟩ := by
  have zero : (0 : UInt64).toNat = 0 := rfl
  have uncounted : (MemoryLink.fresh number found).counters = Vector.replicate 23 0 := by
    cases found <;> rfl
  have running : Driven.running flow.stat ⟨Interface.new name id kind root capacity, MemoryLink.fresh number found⟩
      = 0 := by
    rw [Driven.running_of_down rfl, uncounted]
    simp [PerStat.get]
  have nothing : Ledger.volume {} flow = 0 := by
    cases flow <;> rfl
  refine ⟨⟨fun there => ?_, fun _ => ?_, fun up => ?_⟩, ?_⟩
  · have attached := there.resolve_left Bool.false_ne_true
    cases found with
    | none => cases attached
    | some link => rfl
  · cases found <;> rfl
  · cases up
  · change (Counters.tally {} flow.stat).Covers _ _ _ _
    rw [Counters.tally_new, running, nothing]
    exact ⟨zero, Nat.le_of_eq zero, fun _ => zero, zero, Nat.le_refl _⟩

/-- Whatever is done in whatever order: what is read of a counter is what has passed since it was last cleared, over
all incarnations of the link. -/
theorem read_stat_exact (name : String) (id : UInt32) (kind : Kind) (root : RootId) (capacity number : Nat)
    (found : Option (UInt32 × Mac)) (moves : List Move) (flow : Flow) :
    let start : Driven MemoryLink := ⟨Interface.new name id kind root capacity, MemoryLink.fresh number found⟩
    let driven := Move.run moves start
    let ledger := Ledger.keep {} moves start
    (∀ name value, .setStat name value ∉ moves) → Move.Unstruck moves start → ledger.volume flow < UInt64.size →
    (driven.backend.fault ≠ some .readStat → (Driven.readStat MemoryLink.backend flow.stat.name driven).result.isOk)
      ∧ ∀ count, (Driven.readStat MemoryLink.backend flow.stat.name driven).result = .ok count →
        count.toNat + ledger.cleared flow = ledger.volume flow := by
  intro start driven ledger unset unstruck fits
  have kept : ledger.Kept flow driven :=
    (Ledger.kept_fresh name id kind root capacity number found flow).run moves unset unstruck fits
  have read := Exact.read kept fits
  refine ⟨fun unarmed => ?_, fun count answered => read.of_ok answered⟩
  cases answered : (Driven.readStat MemoryLink.backend flow.stat.name driven).result with
  | ok count => rfl
  | error error => exact absurd (read.of_error answered) unarmed

/-- The peer sends two frames, their number is cleared, and the link is created anew before the third. -/
def Move.anew : List Move :=
  [.own .up, .peerSend [1], .peerSend [2, 3], .own (.clearStat "tx_packets"), .own .down, .own .up, .peerSend [4]]

theorem read_stat_exact_anew :
    ∃ count, (Driven.readStat MemoryLink.backend Flow.txPackets.stat.name
        (Move.run Move.anew ⟨Interface.new "tap0" 0 .tap 0 defaultCapacity, MemoryLink.fresh 0 none⟩)).result
        = .ok count
      ∧ count.toNat + 2 = 3 := by
  have unset : ∀ name value, .setStat name value ∉ Move.anew := by simp [Move.anew]
  have unstruck : Move.Unstruck Move.anew
      ⟨Interface.new "tap0" 0 .tap 0 defaultCapacity, MemoryLink.fresh 0 none⟩ := by
    decide +kernel
  have volume : (Ledger.keep {} Move.anew
      ⟨Interface.new "tap0" 0 .tap 0 defaultCapacity, MemoryLink.fresh 0 none⟩).volume .txPackets = 3 := by
    decide +kernel
  have cleared : (Ledger.keep {} Move.anew
      ⟨Interface.new "tap0" 0 .tap 0 defaultCapacity, MemoryLink.fresh 0 none⟩).cleared .txPackets = 2 := by
    decide +kernel
  have unarmed : (Move.run Move.anew
      ⟨Interface.new "tap0" 0 .tap 0 defaultCapacity, MemoryLink.fresh 0 none⟩).backend.fault ≠ some .readStat := by
    decide +kernel
  have fits : (Ledger.keep {} Move.anew
      ⟨Interface.new "tap0" 0 .tap 0 defaultCapacity, MemoryLink.fresh 0 none⟩).volume .txPackets < UInt64.size := by
    rw [volume]
    decide
  obtain ⟨succeeds, exact⟩ :=
    read_stat_exact "tap0" 0 .tap 0 defaultCapacity 0 none Move.anew .txPackets unset unstruck fits
  have granted := succeeds unarmed
  rw [volume, cleared] at exact
  generalize Driven.readStat _ _ _ = reply at granted exact ⊢
  cases answered : reply.result with
  | ok count => exact ⟨count, rfl, exact count answered⟩
  | error error => simp [answered, Except.isOk, Except.toBool] at granted

end VirtualLink
