import VirtualLink.Proofs.MemoryLink.Channel
import VirtualLink.Proofs.MemoryLink.Committing
import VirtualLink.Proofs.MemoryLink.Counted
import VirtualLink.Proofs.TearDown

namespace VirtualLink

open Call Driven

namespace LinkState

theorem applyAll_delIpv6 (state : LinkState) (addrs : List Ipv6) :
    state.applyAll (addrs.map (.delIpv6 · ipv6PrefixLength)) =
      { state with ipv6 := state.ipv6.filter (· ∉ addrs.map (·, ipv6PrefixLength)) } := by
  induction addrs generalizing state with
  | nil =>
    have whole : state.ipv6.filter (· ∉ ([] : List Ipv6).map (·, ipv6PrefixLength)) = state.ipv6 :=
      List.filter_eq_self.mpr (by simp)
    rw [whole]
    rfl
  | cons addr rest ih =>
    have filtered : (state.ipv6.filter (· ≠ (addr, ipv6PrefixLength))).filter (· ∉ rest.map (·, ipv6PrefixLength))
        = state.ipv6.filter (· ∉ (addr :: rest).map (·, ipv6PrefixLength)) := by
      rw [List.filter_filter]
      refine List.filter_congr fun entry _ => ?_
      simp [Bool.and_comm]
    change (state.apply (.delIpv6 addr ipv6PrefixLength)).applyAll _ = _
    rw [ih, ← filtered]
    rfl

/-- What a tear-down takes off a link. -/
theorem applyAll_retractions (state : LinkState) (settings : Settings) :
    state.applyAll settings.retractions =
      { state with
        adminUp := false
        ipv6 := state.ipv6.filter (· ∉ settings.ipv6.map (·, ipv6PrefixLength))
        ipv4 := if settings.ipv4.isSome then none else state.ipv4
        netmask := if settings.ipv4.isSome then none else state.netmask
        broadcast := if settings.ipv4.isSome then none else state.broadcast } := by
  have gone : state.ipv6.filter (· ∉ settings.ipv6.reverse.map (·, ipv6PrefixLength))
      = state.ipv6.filter (· ∉ settings.ipv6.map (·, ipv6PrefixLength)) := by
    simp only [List.map_reverse, List.mem_reverse]
  unfold Settings.retractions
  rw [applyAll_append]
  change ((state.apply (.setAdmin false)).applyAll _).applyAll _ = _
  rw [applyAll_delIpv6]
  simp only [apply, gone]
  cases settings.ipv4 <;> rfl

/-- What a tear-down gives back. -/
theorem applyAll_restore (state : LinkState) (restore : Restore) :
    state.applyAll restore.requests = { state with mtu := restore.mtu, mac := restore.mac.getD state.mac } := by
  unfold Restore.requests
  cases restore.mac <;> rfl

end LinkState

namespace Interface

/-- The interface after a tear-down that left it these counters. -/
def lowered (iface : Interface) (counters : Counters) : Interface :=
  { iface.holding none with restore := none, isUp := false, counters }

end Interface

namespace MemoryLink

variable {iface : Interface} {link : MemoryLink}

/-- The order to fail has struck, and the link is still there. -/
structure Spent (link after : MemoryLink) : Prop where
  armed : link.fault ≠ none
  disarmed : after.fault = none
  there : after.state.exists? = true

theorem requestAll_ensures (name : String) (changes : List Request) (there : link.state.exists? = true) {ε : Type}
    {done : Option Error → MemoryLink → Prop} {failed : ε → MemoryLink → Prop}
    (granted : done none (link.granted changes)) (spent : ∀ refused after, link.Spent after → done refused after) :
    (backend.requestAll name changes).Ensures done failed link := by
  induction changes generalizing link done with
  | nil => exact granted
  | cons change rest ih =>
    simp only [Backend.requestAll, backend_request, ensures_bind, ensures_attempt, request_ensures name change there]
    split
    · rename_i refused
      have armed : link.fault ≠ none := by simp [refused]
      have present : link.disarmed.state.exists? = true := there
      have stays : (link.disarmed.granted rest).state.exists? = true := (granted_exists rest).trans there
      simp only [ensures_bind, ensures_log, ensures_discard]
      exact ih present (spent _ _ ⟨armed, rfl, stays⟩) fun _ _ later => absurd rfl later.armed
    · have stays : (link.granted [change]).state.exists? = true := (granted_exists [change]).trans there
      exact ih stays granted fun refused after later => spent refused after ⟨later.armed, later.disarmed, later.there⟩

/-- A look at the counters leaves the rest as it is. -/
theorem lastLook_ensures (there : link.state.exists? = true) {ε : Type} {done : Unit → Driven MemoryLink → Prop}
    {failed : ε → Driven MemoryLink → Prop}
    (looked : ∀ counters after, after = link ∨ link.Spent after → done () ⟨{ iface with counters }, after⟩) :
    (lastLook backend).Ensures done failed ⟨iface, link⟩ := by
  have present (after : MemoryLink) (known : after = link ∨ link.Spent after) : after.state.exists? = true := by
    rcases known with rfl | spent
    · exact there
    · exact spent.there
  have observe (stat : Stat) : (Driven.observe backend stat).Keeps
      fun driven => ∃ counters after,
        driven = ⟨{ iface with counters }, after⟩ ∧ (after = link ∨ link.Spent after) := by
    rintro driven ⟨counters, after, rfl, known⟩
    simp only [Driven.observe, ensures_bind, ensures_iface?, ensures_ite, ensures_onBackend, ensures_update,
      ensures_pure]
    split
    · change (readStat _ _).Ensures _ _ _
      rw [readStat_ensures_of_exists _ _ (present after known)]
      split
      · rename_i refused
        refine ⟨counters, after.disarmed, rfl, .inr ⟨?_, rfl, present after known⟩⟩
        rcases known with rfl | spent
        · exact fun calm => by simp [calm] at refused
        · exact spent.armed
      · exact ⟨_, after, rfl, known⟩
    · exact ⟨counters, after, rfl, known⟩
  have all := observeAll_keeps observe Stat.all ⟨iface, link⟩ ⟨iface.counters, link, rfl, .inl rfl⟩
  have shown (driven : Driven MemoryLink)
      (seen : ∃ counters after, driven = ⟨{ iface with counters }, after⟩ ∧ (after = link ∨ link.Spent after)) :
      done () driven := by
    obtain ⟨counters, after, rfl, known⟩ := seen
    exact looked counters after known
  simp only [lastLook, ensures_bind, ensures_attempt]
  exact all.mono (fun _ => shown) fun _ => shown

theorem closeLink_ensures {queues : Queues} (held : iface.pool.queues = some queues) {ε : Type}
    {done : Origin × Option Error → Driven MemoryLink → Prop} {failed : ε → Driven MemoryLink → Prop} :
    (closeLink backend).Ensures done failed ⟨iface, link⟩
      ↔ if link.fault = some .release then
          done (queues.origin, some (refusal .release iface.name)) ⟨iface.holding none, link.released queues⟩
        else done (queues.origin, none) ⟨iface.holding none, link.released queues⟩ := by
  simp only [closeLink, ensures_bind, ensures_iface?, ensures_attempt, releaseQueues_ensures held, held, ensures_log,
    ensures_pure]
  rfl

/-- A tear-down takes everything off the link and closes it, unless the order to fail strikes. -/
theorem down_ensures {queues : Queues} (up : iface.isUp = true) (held : iface.pool.queues = some queues)
    (there : link.state.exists? = true) {done : Unit → Driven MemoryLink → Prop}
    {failed : Error → Driven MemoryLink → Prop}
    (lowered : ∀ counters, done () ⟨iface.lowered counters, (link.granted iface.tearDown).released queues⟩)
    (spent : ∀ counters after, link.fault ≠ none → after.fault = none →
      done () ⟨iface.lowered counters, after⟩ ∧ ∀ error, failed error ⟨iface.lowered counters, after⟩) :
    (Driven.down backend).Ensures done failed ⟨iface, link⟩ := by
  -- Once all is asked, it is all granted unless the order to fail has struck.
  have finish (counters : Counters) (refused : Option Error) (after : MemoryLink)
      (asked : refused = none ∧ after = link.granted iface.tearDown ∨ link.Spent after) :
      (shutDown backend refused).Ensures done failed ⟨{ iface with counters }, after⟩ := by
    have still : ({ iface with counters, restore := none } : Interface).pool.queues = some queues := held
    have either (armed : link.fault ≠ none) (calm : (after.released queues).fault = none) (answer : Option Error) :
        (answer.elim (pure ()) fail).Ensures done failed
          ⟨iface.lowered (counters.retire queues.origin), after.released queues⟩ := by
      have ended := spent (counters.retire queues.origin) (after.released queues) armed calm
      cases answer with
      | none => exact ended.1
      | some error => exact ended.2 error
    refine (ensures_bind _ _).mpr ((ensures_update _).mpr ((ensures_bind _ _).mpr ((closeLink_ensures still).mpr ?_)))
    simp only [ensures_bind, ensures_update]
    rcases asked with ⟨rfl, rfl⟩ | struck
    · split
      · rename_i release
        have armed : link.fault ≠ none := fun calm => by simp [granted, calm] at release
        have calm : ((link.granted iface.tearDown).released queues).fault = none := by
          obtain ⟨_, shut⟩ := shut_eq queues (link.granted iface.tearDown).disarmed
          rw [released, if_pos release, shut]
          rfl
        exact either armed calm (some (refusal .release iface.name))
      · exact lowered (counters.retire queues.origin)
    · have calm := (released_fault queues).elim (·.trans struck.disarmed) fun calm => calm
      split <;> exact either struck.armed calm _
  refine (Driven.down_ensures_iff up).mpr ((ensures_bind _ _).mpr ((ensures_bind _ _).mpr ?_))
  refine lastLook_ensures there fun counters seen looked => ?_
  refine (ensures_bind _ _).mpr ((ensures_onBackend _).mpr ?_)
  rcases looked with rfl | struck
  · exact requestAll_ensures iface.name iface.tearDown there (finish counters none _ (.inl ⟨rfl, rfl⟩))
      fun refused after later => finish counters refused after (.inr later)
  · have stays : (seen.granted iface.tearDown).state.exists? = true := (granted_exists _).trans struck.there
    refine requestAll_ensures iface.name iface.tearDown struck.there ?_ fun _ _ later =>
      absurd struck.disarmed later.armed
    exact finish counters none _ (.inr ⟨struck.armed, struck.disarmed, stays⟩)

/-- These queues are held on a link that is attached and there just as this one. -/
def Carries (link : MemoryLink) (queues : Queues) (driven : Driven MemoryLink) : Prop :=
  driven.iface.pool.queues = some queues ∧ driven.backend.attached = link.attached
    ∧ driven.backend.state.exists? = link.state.exists?

theorem carries_retained (queues : Queues) : Retained backend (link.Carries queues) where
  counters _ _ before := before
  restore _ _ before := before
  readStat _ stat before :=
    (ensures_onBackend _).mpr (readStat_ensures _ stat (fun _ _ => before) fun _ _ => before)
  request name change driven before := by
    have quiet (after : MemoryLink) (same : driven.backend.Quiet after) :
        link.Carries queues { driven with backend := after } :=
      ⟨before.1, same.attached.trans before.2.1, same.existence.trans before.2.2⟩
    exact (ensures_onBackend _).mpr ((request_quiet name change).mono (fun _ => quiet) fun _ => quiet)

/-- Whatever else a tear-down comes to, it closes the queues. -/
theorem down_closes {queues : Queues} (up : iface.isUp = true) (held : iface.pool.queues = some queues)
    {closed : Driven MemoryLink → Prop}
    (close : ∀ (lowered : Interface) (between : MemoryLink), lowered.isUp = false → lowered.pool.queues = none →
      between.attached = link.attached → between.state.exists? = link.state.exists? →
      closed ⟨lowered, between.released queues⟩) :
    (Driven.down backend).Ensures (fun _ => closed) (fun _ => closed) ⟨iface, link⟩ := by
  have shut (driven : Driven MemoryLink) (carries : link.Carries queues driven) :
      (releaseQueues backend).Ensures
        (fun _ after => ∀ counters, closed { after with iface := { after.iface with counters, isUp := false } })
        (fun _ after => ∀ counters, closed { after with iface := { after.iface with counters, isUp := false } })
        driven := by
    obtain ⟨held, attached, existence⟩ := carries
    rw [releaseQueues_ensures held]
    split <;> exact fun _ => close _ _ rfl rfl attached existence
  exact (carries_retained queues).down shut (fun _ counters lowered => lowered counters) up ⟨held, rfl, rfl⟩

end MemoryLink

end VirtualLink
