import VirtualLink.Proofs.Tally
import VirtualLink.Proofs.TearDown
import VirtualLink.Proofs.Unwinding

namespace VirtualLink

open Call Driven

variable {σ : Type} {backend : Backend σ} {stat : Stat}

/-- What a turn reads this counter of the link as. -/
def Turn.reading? (stat : Stat) : Turn → Option UInt64
  | .readStat _ name (.ok reading) => if name = stat.name then some reading else none
  | _ => none

namespace Transcribed

/-- What the counter was read as, oldest reading first. -/
def readings (stat : Stat) (whole : Transcribed σ) : List UInt64 :=
  whole.turns.filterMap (Turn.reading? stat)

theorem readings_append (state : σ) (turns later : List Turn) :
    readings stat ⟨state, turns ++ later⟩ = readings stat ⟨state, turns⟩ ++ later.filterMap (Turn.reading? stat) :=
  List.filterMap_append

end Transcribed

namespace Driven

/-- What the actions read the counter as, oldest reading first. -/
def readings (backend : Backend σ) (stat : Stat) (actions : List Action) (start : Driven σ) : List UInt64 :=
  (Action.run backend.transcribed actions ⟨start.iface, ⟨start.backend, []⟩⟩).backend.readings stat

/-- A bring-up has no part in the counters. -/
theorem up_counters (driven : Driven σ) :
    (Driven.up backend).Ensures
      (fun _ after => after.iface.isUp = true ∧ after.iface.counters = driven.iface.counters)
      (fun _ after => after.iface.counters = driven.iface.counters) driven := by
  cases up : driven.iface.isUp with
  | true => exact up_refused up rfl
  | false =>
    refine (backend.transcribed_mirrors.up.ensures_iff ⟨driven.iface, ⟨driven.backend, []⟩⟩).mpr ?_
    refine up_transcribed up (fun _ _ => ?_) (fun _ _ _ _ _ => ?_) fun _ _ _ _ => ?_
    · rfl
    · rfl
    · exact ⟨rfl, rfl⟩

/-- Nothing was cleared of the counter that was not counted. -/
def Sound (stat : Stat) (driven : Driven σ) : Prop :=
  (driven.iface.counters.tally stat).Sound

namespace Sound

theorem untouched {ε α : Type} (call : Call ε σ α) : (onBackend call).Keeps (Sound stat) :=
  onBackend_keeps_iface (fun iface => (iface.counters.tally stat).Sound) call

theorem of_counters {driven after : Driven σ} (before : Sound stat driven)
    (same : after.iface.counters = driven.iface.counters) : Sound stat after := by
  unfold Sound
  rw [same]
  exact before

theorem observe (other : Stat) : (Driven.observe backend other).Keeps (Sound stat) := by
  refine iface?_keeps.bind fun iface => .ite _ ?_ fun _ before => before
  refine (untouched _).bind fun reading driven before => ?_
  change ((driven.iface.counters.update other _).tally stat).Sound
  rw [Counters.tally_update]
  split
  · exact Tally.Sound.observe before reading
  · exact before

theorem clear (name : String) : (Driven.clearStat backend name).Keeps (Sound stat) := by
  refine (Keeps.ofExcept _).bind fun other => (observe other).bind fun _ => Keeps.bind (fun driven before => ?_)
    fun _ => iface?_keeps.bind fun _ => Keeps.log _
  change ((driven.iface.counters.update other _).tally stat).Sound
  rw [Counters.tally_update]
  split
  · exact Tally.sound_clear _
  · exact before

theorem retired {driven : Driven σ} (before : Sound stat driven) (origin : Origin) :
    Sound stat (driven.retired origin) := by
  change ((driven.iface.counters.retire origin).tally stat).Sound
  rw [Counters.tally_retire]
  exact Tally.Sound.retire before origin

theorem releaseQueues : (Driven.releaseQueues backend).Keeps (Sound stat) :=
  releaseQueues_keeps (fun _ _ => untouched _) fun _ before => before

theorem down : (Driven.down backend).Keeps (Sound stat) := by
  intro driven before
  cases up : driven.iface.isUp with
  | false => exact down_refused up before
  | true =>
    refine down_ensures (fun _ _ => untouched _) (fun _ looked => looked) (fun driven looked => ?_) up
      (observeAll_keeps observe _ driven before)
    exact (releaseQueues driven looked).mono (fun _ _ closed => closed.retired _) fun _ _ closed => closed.retired _

theorem call (action : Action) : (action.call backend).Keeps (Sound stat) := by
  cases action with
  | set setter => exact (set_keeps (fun _ _ _ _ _ before => before) setter).map _
  | up =>
    refine Keeps.map _ fun driven before => (up_counters driven).mono (fun _ after raised => ?_) fun _ after same => ?_
    · exact before.of_counters raised.2
    · exact before.of_counters same
  | down => exact down.map _
  | send packet => exact (send_keeps (fun driven _ _ _ _ => untouched _ driven) packet).map _
  | receive =>
    refine Keeps.map _ (Lasting.receive fun driven queues _ _ before => ?_)
    exact untouched _ driven before
  | readStat name => exact (readStat_keeps observe name).map _
  | clearStat name => exact (clear name).map _
  | snapshot => exact (snapshot_keeps observe).map _

theorem run {start : Driven σ} (before : Sound stat start) (actions : List Action) :
    Sound stat (Action.run backend actions start) := by
  induction actions generalizing start with
  | nil => exact before
  | cons action rest ih => exact ih ((call action).after before)

end Sound

/-- The interface is up since it counted this, and has seen the link's counter as its readings say. -/
structure Tracking (stat : Stat) (before : Tally) (driven : Driven (Transcribed σ)) : Prop where
  up : driven.iface.isUp = true
  tally : driven.iface.counters.tally stat = (driven.backend.readings stat).foldl Tally.observe before

namespace Tracking

variable {before : Tally}

/-- Only a look at the counter itself adds a reading. -/
theorem looks (other : Stat) {driven : Driven (Transcribed σ)} (tracking : Tracking stat before driven) :
    (Driven.observe backend.transcribed other).Ensures
      (fun _ after => Tracking stat before after
        ∧ (other = stat → ∃ reading, after.backend.readings stat = driven.backend.readings stat ++ [reading]))
      (fun _ => Tracking stat before) driven := by
  obtain ⟨up, tally⟩ := tracking
  simp only [Driven.observe, ensures_bind, ensures_iface?, up, if_true, ensures_onBackend, ensures_update]
  refine transcribed_ensures (fun reading state => ?_) fun error state => ⟨up, ?_⟩
  · by_cases own : other = stat
    · subst own
      have read : Transcribed.readings other
          ⟨state, driven.backend.turns ++ [.readStat driven.iface.name other.name (.ok reading)]⟩
          = driven.backend.readings other ++ [reading] := by
        rw [Transcribed.readings_append]
        simp [Transcribed.readings, Turn.reading?]
      refine ⟨⟨rfl, ?_⟩, fun _ => ⟨reading, read⟩⟩
      rw [read, List.foldl_append, ← tally]
      exact Counters.tally_update_self ..
    · have unread : Transcribed.readings stat
          ⟨state, driven.backend.turns ++ [.readStat driven.iface.name other.name (.ok reading)]⟩
          = driven.backend.readings stat := by
        have apart : other.name ≠ stat.name := fun same => own (Stat.name_injective same)
        rw [Transcribed.readings_append]
        simp [Transcribed.readings, Turn.reading?, apart]
      refine ⟨⟨rfl, ?_⟩, fun same => absurd same own⟩
      rw [unread, ← tally]
      exact Counters.tally_update_of_ne _ _ (Ne.symm own)
  · have unread : Transcribed.readings stat
        ⟨state, driven.backend.turns ++ [.readStat driven.iface.name other.name (.error error)]⟩
        = driven.backend.readings stat := by
      rw [Transcribed.readings_append]
      exact List.append_nil _
    rw [unread, tally]

theorem observe (other : Stat) : (Driven.observe backend.transcribed other).Keeps (Tracking stat before) :=
  fun _ tracking => (looks other tracking).mono (fun _ _ looked => looked.1) fun _ _ still => still

/-- Reading a frame or writing one leaves no turn. -/
theorem untold {ε α : Type} (call : Call ε σ α) :
    (onBackend (call.zoom Transcribed.state Transcribed.put)).Keeps (Tracking stat before) := by
  intro driven tracking
  simp only [ensures_onBackend, ensures_zoom]
  unfold Ensures
  split <;> exact ⟨tracking.up, tracking.tally⟩

theorem clear {name : String} (other : name ≠ stat.name) :
    (Driven.clearStat backend.transcribed name).Keeps (Tracking stat before) := by
  unfold Driven.clearStat
  cases found : Stat.ofName name with
  | error error => exact fun _ tracking => tracking
  | ok cleared =>
    have apart : stat ≠ cleared := by
      rintro rfl
      exact other (Stat.name_of_ofName found).symm
    intro driven tracking
    rw [ensures_bind, ensures_ofExcept_ok, ensures_bind]
    refine (observe cleared driven tracking).mono (fun _ after still => ?_) fun _ _ still => still
    simp only [ensures_bind, ensures_update, ensures_iface?, ensures_log]
    exact ⟨still.up, (Counters.tally_update_of_ne _ _ apart).trans still.tally⟩

theorem call {action : Action} (stays : action ≠ .down) (uncleared : action ≠ .clearStat stat.name) :
    (action.call backend.transcribed).Keeps (Tracking stat before) := by
  cases action with
  | set setter => exact (set_keeps (fun _ _ _ _ _ tracking => ⟨tracking.up, tracking.tally⟩) setter).map _
  | up =>
    exact Keeps.map _ fun driven tracking => up_refused tracking.up tracking
  | down => exact absurd rfl stays
  | send packet => exact (send_keeps (fun driven _ _ _ _ => untold _ driven) packet).map _
  | receive =>
    refine Keeps.map _ (Lasting.receive fun driven queues _ _ tracking => ?_)
    exact (untold _ driven tracking).mono (fun _ _ still => ⟨still.up, still.tally⟩) fun _ _ still => still
  | readStat name => exact (readStat_keeps observe name).map _
  | clearStat name => exact (clear fun same => uncleared (congrArg Action.clearStat same)).map _
  | snapshot => exact (snapshot_keeps observe).map _

theorem run {actions : List Action} {start : Driven (Transcribed σ)} (tracking : Tracking stat before start)
    (stays : .down ∉ actions) (uncleared : .clearStat stat.name ∉ actions) :
    Tracking stat before (Action.run backend.transcribed actions start) := by
  induction actions generalizing start with
  | nil => exact tracking
  | cons action rest ih =>
    rw [List.mem_cons, not_or] at stays uncleared
    have next : Tracking stat before (action.call backend.transcribed start).state :=
      (call (Ne.symm stays.1) (Ne.symm uncleared.1)).after tracking
    exact ih next stays.2 uncleared.2

/-- The value that is read is that of the last reading. -/
theorem read {driven : Driven (Transcribed σ)} (tracking : Tracking stat before driven) :
    (Driven.readStat backend.transcribed stat.name).Ensures
      (fun value after => Tracking stat before after ∧ value = after.iface.counters.value stat
        ∧ after.backend.readings stat ≠ [])
      (fun _ _ => True) driven := by
  simp only [Driven.readStat, ensures_bind, Stat.ofName_name, ensures_ofExcept_ok]
  refine (looks stat tracking).mono (fun _ after looked => ?_) fun _ _ _ => trivial
  simp only [ensures_bind, ensures_iface?, ensures_pure]
  obtain ⟨still, own⟩ := looked
  obtain ⟨reading, last⟩ := own rfl
  rw [last]
  refine ⟨still, trivial, ?_⟩
  exact List.append_ne_nil_of_right_ne_nil _ (List.cons_ne_nil _ _)

end Tracking

end Driven

/-- After a bring-up the link's counter is read on top of the value that it had before, wherever the link comes from.
That is so if and only if the last look at the link before saw nothing, or the first one at the new link sees less. -/
theorem read_on_top_iff (backend : Backend σ) (stat : Stat) (name : String) (id : UInt32) (kind : Kind) (root : RootId)
    (capacity : Nat) (state : σ) (history rest : List Action) (value : UInt64) :
    let start := Action.run backend history ⟨Interface.new name id kind root capacity, state⟩
    let opened := (Driven.up backend start).state
    let readings := Driven.readings backend stat (rest ++ [.readStat stat.name]) opened
    let tally := start.iface.counters.tally stat
    (Driven.up backend start).result = .ok () → .down ∉ rest → .clearStat stat.name ∉ rest →
    (Driven.readStat backend stat.name (Action.run backend rest opened)).result = .ok value →
    readings.Pairwise (· ≤ ·) →
    (∀ reading ∈ readings, tally.carried.toNat + tally.current.toNat + reading.toNat < UInt64.size) →
    ∃ first last, readings.head? = some first ∧ readings.getLast? = some last
      ∧ (value.toNat = tally.value.toNat + last.toNat ↔ tally.current = 0 ∨ first < tally.current) := by
  intro start opened readings tally brought stays uncleared answered grows fits
  have new : Sound stat (⟨Interface.new name id kind root capacity, state⟩ : Driven σ) := by
    unfold Sound
    rw [Interface.new, Counters.tally_new]
    exact UInt64.zero_le
  have sound : tally.Sound := new.run history
  have raised := (up_counters start).of_ok brought
  have tracking : Tracking stat tally ⟨opened.iface, ⟨opened.backend, []⟩⟩ :=
    ⟨raised.1, congrArg (Counters.tally · stat) raised.2⟩
  have running : Tracking stat tally
      (Action.run backend.transcribed rest ⟨opened.iface, ⟨opened.backend, []⟩⟩) := tracking.run stays uncleared
  have same := backend.transcribed_mirrors
  have plain : Action.run backend rest opened
      = (Action.run backend.transcribed rest ⟨opened.iface, ⟨opened.backend, []⟩⟩).seen Transcribed.state :=
    same.run rest ⟨opened.iface, ⟨opened.backend, []⟩⟩
  have all : readings = (Driven.readStat backend.transcribed stat.name
      (Action.run backend.transcribed rest ⟨opened.iface, ⟨opened.backend, []⟩⟩)).state.backend.readings stat := by
    simp only [readings, Driven.readings, Action.run, List.foldl_append, List.foldl_cons, List.foldl_nil, Action.call,
      state_map]
  rw [plain, same.readCount stat.name] at answered
  obtain ⟨told, read, some⟩ := running.read.of_ok answered
  have counted : value = (readings.foldl Tally.observe tally).value := by
    rw [read, all, ← told.tally]
    rfl
  rw [← all] at some
  -- From here on the readings are a list of numbers that grow.
  clear_value readings
  obtain ⟨first, others, rfl⟩ := List.exists_cons_of_ne_nil some
  refine ⟨first, others.getLastD first, rfl, ?_, ?_⟩
  · rw [List.getLast?_cons, List.getLastD_eq_getLast?]
  · rw [counted]
    exact Tally.value_restarted_iff sound grows (fits _ List.getLastD_mem_cons)

/-- A link that comes and goes. At each opening it has an origin, and as long as it is open its counters stand at one
value. -/
structure Series where
  counters : UInt64 := 0
  coming : List (Origin × UInt64)

def Series.link : Backend Series where
  acquire name _ := fun series =>
    match series.coming with
    | [] => ⟨.error (.os "reach link" name (.errno .noDevice)), series, []⟩
    | (origin, counters) :: coming => ⟨.ok ⟨⟨.tun, 0⟩, ⟨.tun, 0⟩, origin⟩, { counters, coming }, []⟩
  release _ _ := pure ()
  mac _ := pure initialMac
  mtu _ := pure 1500
  request _ _ := pure ()
  readStat _ _ := fun series => ⟨.ok series.counters, series, []⟩
  read _ _ := pure []
  write _ frame := pure frame.length

/-- A link that is found has 1000 on its counters, and the one that is created after it gets to `later`. -/
def Series.found (later : UInt64) : Series where
  coming := [(.attached, 1000), (.created, later)]

/-- The interface has been up and down again on the first link of the series. -/
def Series.first (series : Series) : Driven Series :=
  Action.run link [.up, .down] ⟨Interface.new "tap0" 0 .tap 0 defaultCapacity, series⟩

/-- The interface is up on the second link of the series. -/
def Series.second (series : Series) : Driven Series :=
  (Driven.up link series.first).state

/-- The 20 of a link of its own come on top of the 1000 of a link that was found. -/
theorem read_on_top_iff_series :
    ∃ value,
      (Driven.readStat Series.link Stat.rxPackets.name (Series.second (.found 20))).result = .ok value
        ∧ value.toNat = 1000 + 20 := by
  have raised : (Driven.up Series.link (Series.first (.found 20))).result.isOk = true := by decide +kernel
  have granted :
      (Driven.readStat Series.link Stat.rxPackets.name (Series.second (.found 20))).result.isOk = true := by
    decide +kernel
  have readings :
      Driven.readings Series.link Stat.rxPackets [.readStat Stat.rxPackets.name] (Series.second (.found 20))
        = [20] := by
    decide +kernel
  have worth : ((Series.first (.found 20)).iface.counters.tally Stat.rxPackets).value.toNat = 1000 := by
    decide +kernel
  have below : 20 < ((Series.first (.found 20)).iface.counters.tally Stat.rxPackets).current := by decide +kernel
  have grows : (Driven.readings Series.link Stat.rxPackets [.readStat Stat.rxPackets.name]
      (Series.second (.found 20))).Pairwise (· ≤ ·) := by
    rw [readings]
    exact List.pairwise_singleton _ _
  have fits : ∀ reading ∈ Driven.readings Series.link Stat.rxPackets [.readStat Stat.rxPackets.name]
      (Series.second (.found 20)),
      ((Series.first (.found 20)).iface.counters.tally Stat.rxPackets).carried.toNat
        + ((Series.first (.found 20)).iface.counters.tally Stat.rxPackets).current.toNat + reading.toNat
        < UInt64.size := by
    rw [readings]
    intro reading member
    obtain rfl := List.mem_singleton.mp member
    decide +kernel
  unfold Series.first at worth below fits
  cases brought : (Driven.up Series.link (Series.first (.found 20))).result with
  | error => simp [brought, Except.isOk, Except.toBool] at raised
  | ok =>
    cases answered :
        (Driven.readStat Series.link Stat.rxPackets.name (Series.second (.found 20))).result with
    | error => simp [answered, Except.isOk, Except.toBool] at granted
    | ok value =>
      obtain ⟨first, last, head, final, adds⟩ := read_on_top_iff Series.link Stat.rxPackets "tap0" 0 .tap 0
        defaultCapacity (.found 20) [.up, .down] [] value brought List.not_mem_nil List.not_mem_nil answered grows fits
      obtain rfl : 20 = first := Option.some.inj ((congrArg List.head? readings).symm.trans head)
      obtain rfl : 20 = last := Option.some.inj ((congrArg List.getLast? readings).symm.trans final)
      have sum := adds.mpr (.inr below)
      rw [worth] at sum
      exact ⟨value, rfl, sum⟩

/-- 1500 on a link of its own is taken for all there is. -/
theorem read_on_top_of_nothing :
    ((Series.first (.found 1500)).iface.counters.value Stat.rxPackets).toNat = 1000
      ∧ (Series.second (.found 1500)).iface.origin = .created
      ∧ Driven.readings Series.link Stat.rxPackets [.readStat Stat.rxPackets.name] (Series.second (.found 1500))
        = [1500]
      ∧ (Driven.readStat Series.link Stat.rxPackets.name (Series.second (.found 1500))).result.toOption.map UInt64.toNat
        = some 1500 := by
  decide +kernel

end VirtualLink
