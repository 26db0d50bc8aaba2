import VirtualLink.Proofs.MemoryLink.Counted
import VirtualLink.Proofs.TearDown

namespace VirtualLink

open Call Driven

variable {σ : Type} {backend : Backend σ} {shown : Stat → Option UInt64}

namespace Counters

/-- The counters after a look at these ones in order, up to the first that shows nothing. -/
def observeAll (shown : Stat → Option UInt64) : List Stat → Counters → Counters
  | [], counters => counters
  | stat :: rest, counters =>
    match shown stat with
    | some reading => observeAll shown rest (counters.observe stat reading)
    | none => counters

variable {counters : Counters} {stats : List Stat} {stat : Stat}

theorem tally_observeAll_of_not_mem (unseen : stat ∉ stats.takeWhile fun stat => (shown stat).isSome) :
    (observeAll shown stats counters).tally stat = counters.tally stat := by
  induction stats generalizing counters with
  | nil => rfl
  | cons first rest ih =>
    rw [observeAll]
    cases reads : shown first with
    | none => rfl
    | some reading =>
      rw [List.takeWhile_cons_of_pos (by simp [reads]), List.mem_cons, not_or] at unseen
      exact (ih unseen.2).trans (tally_update_of_ne _ _ unseen.1)

/-- Each counter before that one takes its reading over. -/
theorem tally_observeAll_of_mem {reading : UInt64} (distinct : stats.Nodup)
    (seen : stat ∈ stats.takeWhile fun stat => (shown stat).isSome) (reads : shown stat = some reading) :
    (observeAll shown stats counters).tally stat = (counters.tally stat).observe reading := by
  induction stats generalizing counters with
  | nil => cases seen
  | cons first rest ih =>
    obtain ⟨apart, distinct⟩ := List.nodup_cons.mp distinct
    rw [observeAll]
    cases shows : shown first with
    | none => simp [shows] at seen
    | some other =>
      rw [List.takeWhile_cons_of_pos (by simp [shows])] at seen
      rcases List.mem_cons.mp seen with rfl | later
      · obtain rfl := Option.some.inj (reads.symm.trans shows)
        have once : stat ∉ rest.takeWhile fun stat => (shown stat).isSome := fun again =>
          apart ((List.takeWhile_subset _) again)
        exact (tally_observeAll_of_not_mem once).trans (tally_update_self ..)
      · have other : stat ≠ first := fun same => apart (same ▸ (List.takeWhile_subset _) later)
        rw [ih distinct later]
        exact congrArg (Tally.observe · reading) (tally_update_of_ne _ _ other)

end Counters

/-- What the counters of a link show when they are read, the link being left as it is. -/
def Backend.Shows (backend : Backend σ) (name : String) (state : σ) (shown : Stat → Option UInt64) : Prop :=
  ∀ stat, (backend.readStat name stat.name).Ensures (fun reading after => shown stat = some reading ∧ after = state)
    (fun _ after => shown stat = none ∧ after = state) state

/-- The same backend, but one counter cannot be read. -/
def Backend.blindTo (backend : Backend σ) (hidden : Stat) (error : Error) : Backend σ :=
  { backend with
    readStat := fun name stat => if stat = hidden.name then Call.fail error else backend.readStat name stat }

theorem Backend.Shows.blindTo {name : String} {state : σ} (shows : backend.Shows name state shown) (hidden : Stat)
    (error : Error) :
    (backend.blindTo hidden error).Shows name state fun stat => if stat = hidden then none else shown stat := by
  intro stat
  by_cases same : stat = hidden
  · subst same
    have refuses : (backend.blindTo stat error).readStat name stat.name = Call.fail error := if_pos rfl
    rw [refuses, ensures_fail]
    exact ⟨if_pos rfl, rfl⟩
  · have apart : stat.name ≠ hidden.name := fun known => same (Stat.name_injective known)
    have reads : (backend.blindTo hidden error).readStat name stat.name = backend.readStat name stat.name :=
      if_neg apart
    simp only [reads, if_neg same]
    exact shows stat

namespace Driven

variable {driven : Driven σ}

/-- The interface after a look at these counters. -/
def looked (shown : Stat → Option UInt64) (stats : List Stat) (driven : Driven σ) : Driven σ :=
  { driven with iface := { driven.iface with counters := driven.iface.counters.observeAll shown stats } }

theorem looked_cons_of_some {stat : Stat} {reading : UInt64} (reads : shown stat = some reading) (rest : List Stat) :
    driven.looked shown (stat :: rest)
      = looked shown rest
        { driven with iface := { driven.iface with counters := driven.iface.counters.observe stat reading } } := by
  simp only [looked, Counters.observeAll, reads]

theorem looked_cons_of_none {stat : Stat} (unread : shown stat = none) (rest : List Stat) :
    driven.looked shown (stat :: rest) = driven := by
  simp only [looked, Counters.observeAll, unread]

theorem observeAll_looks (up : driven.iface.isUp = true)
    (shows : backend.Shows driven.iface.name driven.backend shown) (stats : List Stat) :
    (Driven.observeAll backend stats).Ensures (fun _ after => after = driven.looked shown stats)
      (fun _ after => after = driven.looked shown stats) driven := by
  -- the interface that the rest is looked at from has the first reading already
  induction stats generalizing driven with
  | nil => exact rfl
  | cons stat rest ih =>
    simp only [Driven.observeAll, Driven.observe, ensures_bind, ensures_iface?, if_pos up, ensures_onBackend,
      ensures_update]
    refine (shows stat).mono ?_ ?_
    · rintro reading _ ⟨reads, rfl⟩
      rw [looked_cons_of_some reads]
      exact ih up shows
    · rintro error _ ⟨unread, rfl⟩
      rw [looked_cons_of_none unread]

/-- Whatever a tear-down meets with, it retires the counters that its last look left. -/
theorem down_retires {queues : Queues} {counters : Counters} (up : driven.iface.isUp = true)
    (look : (Driven.observeAll backend Stat.all).Ensures
      (fun _ after => after.iface.counters = counters ∧ after.iface.pool.queues = some queues)
      (fun _ after => after.iface.counters = counters ∧ after.iface.pool.queues = some queues) driven) :
    (Driven.down backend).Ensures
      (fun _ after => after.iface.isUp = false ∧ after.iface.counters = counters.retire queues.origin)
      (fun _ after => after.iface.isUp = false ∧ after.iface.counters = counters.retire queues.origin) driven := by
  have request (name : String) (change : Request) : (onBackend (backend.request name change)).Keeps
      fun after => after.iface.counters = counters ∧ after.iface.pool.queues = some queues :=
    onBackend_keeps_iface (fun iface => iface.counters = counters ∧ iface.pool.queues = some queues) _
  have release : (releaseQueues backend).Keeps fun after => after.iface.counters = counters :=
    releaseQueues_keeps (fun _ _ => onBackend_keeps_iface (fun iface => iface.counters = counters) _) fun _ same => same
  refine Driven.down_ensures request (fun _ same => same) (fun between same => ?_) up look
  have origin : between.iface.origin = queues.origin := by
    rw [Interface.origin, same.2]
    rfl
  have retired (after : Driven σ) (left : after.iface.counters = counters) :
      (after.retired between.iface.origin).iface.isUp = false
        ∧ (after.retired between.iface.origin).iface.counters = counters.retire queues.origin :=
    ⟨rfl, origin ▸ congrArg (Counters.retire · between.iface.origin) left⟩
  exact (release between same.1).mono (fun _ => retired) fun _ => retired

theorem observe_of_down (down : driven.iface.isUp = false) (stat : Stat) :
    Driven.observe backend stat driven = ⟨.ok (), driven, []⟩ := by
  change (if driven.iface.isUp then _ else pure () : Call Error (Driven σ) Unit) driven = _
  rw [if_neg (by simp [down])]
  rfl

/-- Of an interface that is down a counter is read as it was left. -/
theorem readStat_of_down (down : driven.iface.isUp = false) (stat : Stat) :
    Driven.readStat backend stat.name driven = ⟨.ok (driven.iface.counters.value stat), driven, []⟩ := by
  have known : (ofExcept (Stat.ofName stat.name) : Call Error (Driven σ) Stat) driven = ⟨.ok stat, driven, []⟩ := by
    rw [Stat.ofName_name]
    rfl
  exact (bind_of_ok known _).trans (bind_of_ok (observe_of_down down stat) _)

/-- After a tear-down a counter reads as its last look left it. -/
theorem readStat_after_look {queues : Queues} {counters : Counters} (up : driven.iface.isUp = true)
    (look : (Driven.observeAll backend Stat.all).Ensures
      (fun _ after => after.iface.counters = counters ∧ after.iface.pool.queues = some queues)
      (fun _ after => after.iface.counters = counters ∧ after.iface.pool.queues = some queues) driven)
    (stat : Stat) (reader : Backend σ) :
    (Driven.readStat reader stat.name (Driven.down backend driven).state).result = .ok (counters.value stat) := by
  obtain ⟨down, left⟩ := ensures_state_iff.mp (down_retires up look)
  rw [readStat_of_down down, Counters.value, left, Counters.tally_retire, Tally.value_retire, Counters.value]

theorem readStat_after_down {queues : Queues} (up : driven.iface.isUp = true)
    (held : driven.iface.pool.queues = some queues)
    (shows : backend.Shows driven.iface.name driven.backend shown) (stat : Stat) (reader : Backend σ) :
    (Driven.readStat reader stat.name (Driven.down backend driven).state).result
      = .ok ((driven.iface.counters.observeAll shown Stat.all).tally stat).value := by
  have seen (after : Driven σ) (looking : after = driven.looked shown Stat.all) :
      after.iface.counters = driven.iface.counters.observeAll shown Stat.all
        ∧ after.iface.pool.queues = some queues :=
    looking ▸ ⟨rfl, held⟩
  exact readStat_after_look up ((observeAll_looks up shows Stat.all).mono (fun _ => seen) fun _ => seen) stat reader

end Driven

/-- The counters before that one, in listing order. -/
theorem Stat.mem_takeWhile_all {stat hidden : Stat} :
    stat ∈ (Stat.all.takeWhile fun stat => decide (stat ≠ hidden)) ↔ stat < hidden := by
  revert stat hidden
  decide

namespace Counters

variable {counters : Counters} {kernel : Stat → UInt64}

/-- If every counter can be read, every counter takes its reading over. -/
theorem tally_observeAll (stat : Stat) :
    (counters.observeAll (fun stat => some (kernel stat)) Stat.all).tally stat
      = (counters.tally stat).observe (kernel stat) := by
  have whole : (Stat.all.takeWhile fun _ => true) = Stat.all := by decide
  have seen : stat ∈ Stat.all.takeWhile fun _ => true := whole ▸ List.mem_finRange stat
  exact tally_observeAll_of_mem (List.nodup_finRange 23) seen rfl

/-- If one counter cannot be read, it and those behind it stay as they were. -/
theorem tally_observeAll_blind (stat hidden : Stat) :
    (counters.observeAll (fun stat => if stat = hidden then none else some (kernel stat)) Stat.all).tally stat
      = if stat < hidden then (counters.tally stat).observe (kernel stat) else counters.tally stat := by
  have readable : (fun stat => (if stat = hidden then none else some (kernel stat)).isSome)
      = fun stat => decide (stat ≠ hidden) := by
    funext stat
    by_cases same : stat = hidden <;> simp [same]
  split
  · rename_i earlier
    refine tally_observeAll_of_mem (List.nodup_finRange 23) ?_ (if_neg (Fin.ne_of_lt earlier))
    rw [readable]
    exact Stat.mem_takeWhile_all.mpr earlier
  · rename_i later
    refine tally_observeAll_of_not_mem ?_
    rw [readable]
    exact fun seen => later (Stat.mem_takeWhile_all.mp seen)

end Counters

section

variable {driven : Driven MemoryLink} {queues : Queues}

theorem MemoryLink.shows_counters (name : String) {link : MemoryLink} (there : link.state.exists? = true)
    (calm : link.fault ≠ some .readStat) :
    MemoryLink.backend.Shows name link fun stat => some (link.counters.get stat) := by
  intro stat
  change (readStat name stat.name).Ensures _ _ link
  rw [readStat_ensures_of_exists name stat there, if_neg calm]
  exact ⟨rfl, rfl⟩

/-- A look that is told to fail fails at the first counter, and leaves all of them as they were. -/
theorem readStat_after_down_armed (up : driven.iface.isUp = true) (held : driven.iface.pool.queues = some queues)
    (there : driven.backend.state.exists? = true) (armed : driven.backend.fault = some .readStat) (stat : Stat) :
    (Driven.readStat MemoryLink.backend stat.name (Driven.down MemoryLink.backend driven).state).result
      = .ok (driven.iface.counters.value stat) := by
  have look : (Driven.observeAll MemoryLink.backend Stat.all).Ensures
      (fun _ after => after.iface.counters = driven.iface.counters ∧ after.iface.pool.queues = some queues)
      (fun _ after => after.iface.counters = driven.iface.counters ∧ after.iface.pool.queues = some queues) driven := by
    have first : Stat.all = 0 :: Stat.all.tail := by decide
    rw [first]
    simp only [Driven.observeAll, Driven.observe, ensures_bind, ensures_iface?, if_pos up, ensures_onBackend,
      ensures_update]
    change (MemoryLink.readStat _ _).Ensures _ _ _
    rw [MemoryLink.readStat_ensures_of_exists _ _ there, if_pos armed]
    exact ⟨trivial, held⟩
  exact readStat_after_look up look stat MemoryLink.backend

/-- One counter that cannot be read in the last look costs those behind it what they counted since they were last looked
at. It shows in the value of such a counter, unless there is nothing to add, or no more room, or what is added does
not get beyond the last clear. A link that is told to fail a reading hides the first counter. -/
theorem lastLook_loses_iff (up : driven.iface.isUp = true) (held : driven.iface.pool.queues = some queues)
    (there : driven.backend.state.exists? = true) (calm : driven.backend.fault ≠ some .readStat) (stat hidden : Stat)
    (error : Error) :
    let tally := driven.iface.counters.tally stat
    let kernel := driven.backend.counters.get stat
    let read := fun after : Driven MemoryLink => (Driven.readStat MemoryLink.backend stat.name after).result
    let blind := fun hidden => MemoryLink.backend.blindTo hidden error
    let armed := { driven with backend := driven.backend.arm .readStat }
    read (Driven.down MemoryLink.backend driven).state = .ok (tally.observe kernel).value
      ∧ (read (Driven.down (blind hidden) driven).state = .ok (tally.observe kernel).value
        ↔ stat < hidden ∨ kernel = 0 ∨ kernel = tally.current ∨ tally.total.toNat = UInt64.size - 1
          ∨ (tally.observe kernel).total ≤ tally.baseline)
      ∧ read (Driven.down MemoryLink.backend armed).state = read (Driven.down (blind 0) driven).state := by
  intro tally kernel read blind armed
  have shows := MemoryLink.shows_counters driven.iface.name there calm
  have partly (hidden : Stat) : read (Driven.down (blind hidden) driven).state
      = .ok (if stat < hidden then tally.observe kernel else tally).value := by
    refine (readStat_after_down up held (shows.blindTo hidden error) stat _).trans ?_
    rw [Counters.tally_observeAll_blind]
  refine ⟨?_, ?_, ?_⟩
  · refine (readStat_after_down up held shows stat _).trans ?_
    rw [Counters.tally_observeAll]
  · rw [partly, Except.ok.injEq]
    split
    · rename_i earlier
      exact iff_of_true rfl (.inl earlier)
    · rename_i later
      rw [or_iff_right later, ← tally.value_observe_eq_iff kernel]
      exact eq_comm
  · have first : ¬ stat < 0 := Nat.not_lt_zero _
    rw [partly, if_neg first]
    have stillUp : armed.iface.isUp = true := up
    exact readStat_after_down_armed stillUp held there rfl stat

end

/-- An interface that is up, and that its peer has sent a frame. -/
def MemoryLink.visited : Driven MemoryLink :=
  Move.run [.own .up, .peerSend (List.replicate 60 0)] ⟨Interface.new "tap0" 0 .tap 0 defaultCapacity, {}⟩

/-- The bytes stand before the packets, so that without them the packet is not counted either. -/
theorem lastLook_loses_iff_visited :
    let read := fun after : Driven MemoryLink =>
      (Driven.readStat MemoryLink.backend Stat.txPackets.name after).result
    let blind := fun hidden => MemoryLink.backend.blindTo hidden (.unknownStat "")
    MemoryLink.visited.iface.isUp = true ∧ read (Driven.down MemoryLink.backend MemoryLink.visited).state = .ok 1
      ∧ read (Driven.down (blind .txBytes) MemoryLink.visited).state ≠ .ok 1 := by
  intro read blind
  have up : MemoryLink.visited.iface.isUp = true := by decide +kernel
  have held : MemoryLink.visited.iface.pool.queues.isSome = true := by decide +kernel
  have there : MemoryLink.visited.backend.state.exists? = true := by decide +kernel
  have calm : MemoryLink.visited.backend.fault ≠ some .readStat := by decide +kernel
  have kernel : MemoryLink.visited.backend.counters.get Stat.txPackets = 1 := by decide +kernel
  have tally : MemoryLink.visited.iface.counters.tally Stat.txPackets = {} := by decide +kernel
  obtain ⟨queues, held⟩ := Option.isSome_iff_exists.mp held
  obtain ⟨whole, partly, -⟩ := lastLook_loses_iff up held there calm .txPackets .txBytes (.unknownStat "")
  rw [kernel, tally] at whole partly
  have counted : (({} : Tally).observe 1).value = 1 := by decide
  rw [counted] at whole partly
  refine ⟨up, whole, fun same => ?_⟩
  have shown := partly.mp same
  revert shown
  decide

/-- The first reading is told to fail, and the frame is not counted. -/
theorem lastLook_loses_frame :
    let read := fun after : Driven MemoryLink =>
      (Driven.readStat MemoryLink.backend Stat.txPackets.name after).result.toOption
    let armed := { MemoryLink.visited with backend := MemoryLink.visited.backend.arm .readStat }
    read (Driven.down MemoryLink.backend MemoryLink.visited).state = some 1
      ∧ read (Driven.down MemoryLink.backend armed).state = some 0
      ∧ MemoryLink.visited.iface.origin = .created ∧ Stat.all.head? = some (0 : Stat) ∧ Stat.txPackets ≠ 0 := by
  decide +kernel

end VirtualLink
