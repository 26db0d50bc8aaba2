import VirtualLink.MemoryLink
import VirtualLink.Proofs.Ensures

namespace VirtualLink.MemoryLink

open Call

variable {link : MemoryLink} {number : Nat} {inbox : List Bytes}

/-- The near end of this pair is open, the peer has the far end, and these frames are on their way from there. -/
structure Plugged (link : MemoryLink) (number : Nat) (inbox : List Bytes) : Prop where
  peer : link.peer = some number
  pair : ∃ pair, link.pair? number = some pair ∧ pair.nearOpen = true ∧ pair.inbox = inbox

/-- The frames on their way to the peer, oldest first. -/
def waiting (link : MemoryLink) : List Bytes :=
  ((link.peer.bind link.pair?).map Pair.outbox).getD []

theorem number_of_pair? {pair : Pair} (found : link.pair? number = some pair) : pair.number = number := by
  simpa using List.find?_some found

theorem pair?_updatePair {pair : Pair} {f : Pair → Pair} (found : link.pair? number = some pair)
    (same : ∀ p, (f p).number = p.number) : (link.updatePair number f).pair? number = some (f pair) := by
  -- The search looks at numbers only, and the update leaves those alone.
  have blind : ((fun p : Pair => decide (p.number = number)) ∘ fun p => if p.number = number then f p else p)
      = fun p => decide (p.number = number) := by
    funext p
    by_cases own : p.number = number <;> simp [own, same]
  change (link.pairs.map _).find? _ = _
  rw [List.find?_map, blind]
  change (link.pair? number).map _ = _
  rw [found]
  simp [number_of_pair? found]

theorem Plugged.update {inbox' : List Bytes} (plugged : link.Plugged number inbox) (f : Pair → Pair)
    (same : ∀ p, (f p).number = p.number) (stays : ∀ p, (f p).nearOpen = p.nearOpen)
    (frames : ∀ p, p.inbox = inbox → (f p).inbox = inbox') : (link.updatePair number f).Plugged number inbox' := by
  obtain ⟨peer, pair, found, near, own⟩ := plugged
  exact ⟨peer, f pair, pair?_updatePair found same, (stays pair).trans near, frames pair own⟩

/-- What waits for the peer is in the outbox of the pair that is plugged. -/
theorem Plugged.waiting_update (plugged : link.Plugged number inbox) {f : Pair → Pair}
    (g : List Bytes → List Bytes) (same : ∀ p, (f p).number = p.number) (frames : ∀ p, (f p).outbox = g p.outbox) :
    (link.updatePair number f).waiting = g link.waiting := by
  obtain ⟨peer, pair, found, _⟩ := plugged
  have before : link.waiting = pair.outbox := by simp [waiting, peer, found]
  have after : (link.updatePair number f).waiting = (f pair).outbox := by
    have stays : (link.updatePair number f).peer = some number := peer
    simp [waiting, stays, pair?_updatePair found same]
  rw [after, before, frames]

@[simp]
theorem backend_read : backend.read = read :=
  rfl

/-- Reading takes the oldest frame, cut to the limit. -/
theorem read_ensures {descriptor : Descriptor} {limit : Nat} (plugged : link.Plugged descriptor.number inbox)
    {done : Bytes → MemoryLink → Prop} {failed : Errno → MemoryLink → Prop}
    (nothing : inbox = [] → failed .wouldBlock link)
    (next : ∀ frame rest pairs, inbox = frame :: rest → { link with pairs }.Plugged descriptor.number rest →
      { link with pairs }.waiting = link.waiting → done (frame.take limit) { link with pairs }) :
    (read descriptor limit).Ensures done failed link := by
  have ⟨_, pair, found, near, frames⟩ := plugged
  have opened : link.openPair? descriptor = some pair := by simp [openPair?, found, near]
  simp only [read, ensures_bind, ensures_get, opened]
  split
  · rename_i none
    exact nothing (frames.symm.trans none)
  · rename_i frame rest pending
    simp only [ensures_bind, ensures_modify, ensures_pure]
    have unqueued := plugged.update (fun pair => { pair with inbox := rest }) (fun _ => rfl) (fun _ => rfl)
      fun _ _ => rfl
    exact next frame rest _ (frames.symm.trans pending) unqueued
      (plugged.waiting_update (fun frames => frames) (fun _ => rfl) fun _ => rfl)

/-- What is written waits for the peer behind what was written before. -/
theorem write_ensures {descriptor : Descriptor} {frame : Bytes} (plugged : link.Plugged descriptor.number inbox)
    {done : Nat → MemoryLink → Prop} {failed : Errno → MemoryLink → Prop}
    (sent : ∀ pairs, { link with pairs }.Plugged descriptor.number inbox →
      { link with pairs }.waiting = link.waiting ++ [frame] → done frame.length { link with pairs }) :
    (write descriptor frame).Ensures done failed link := by
  have ⟨peer, pair, found, near, _⟩ := plugged
  have opened : link.openPair? descriptor = some pair := by simp [openPair?, found, near]
  have own := number_of_pair? found
  simp only [write, ensures_bind, ensures_get, opened, peer, own, if_true, ensures_modify, ensures_pure]
  have queued := plugged.update (fun pair => { pair with outbox := pair.outbox ++ [frame] }) (fun _ => rfl)
    (fun _ => rfl) fun _ same => same
  exact sent _ queued (plugged.waiting_update (· ++ [frame]) (fun _ => rfl) fun _ => rfl)

theorem peerPair_ensures (plugged : link.Plugged number inbox) {done : Pair → MemoryLink → Prop}
    {failed : PeerFault → MemoryLink → Prop}
    (found : ∀ pair, pair.number = number → pair.nearOpen = true → pair.outbox = link.waiting → done pair link) :
    peerPair.Ensures done failed link := by
  obtain ⟨peer, pair, known, near, _⟩ := plugged
  have waits : pair.outbox = link.waiting := by simp [waiting, peer, known]
  simp only [peerPair, ensures_bind, ensures_get, peer, Option.bind_some, known]
  exact found pair (number_of_pair? known) near waits

/-- What the peer sends waits behind the frames that it sent before. -/
theorem peerSend_ensures {frame : Bytes} (plugged : link.Plugged number inbox) {done : Unit → MemoryLink → Prop}
    {failed : PeerFault → MemoryLink → Prop}
    (sent : ∀ pairs counters, { link with pairs, counters }.Plugged number (inbox ++ [frame]) →
      { link with pairs, counters }.waiting = link.waiting → done () { link with pairs, counters }) :
    (peerSend frame).Ensures done failed link := by
  refine (ensures_bind _ _).mpr (peerPair_ensures plugged fun pair own near _ => ?_)
  have queued := plugged.update (fun pair => { pair with inbox := pair.inbox ++ [frame] }) (fun _ => rfl)
    (fun _ => rfl) fun _ same => congrArg (· ++ [frame]) same
  simp only [near, if_true, ensures_modify, own]
  exact sent _ _ ⟨queued.peer, queued.pair⟩ (plugged.waiting_update (fun frames => frames) (fun _ => rfl) fun _ => rfl)

/-- The peer takes the frame that has waited longest. -/
theorem peerReceive_ensures (plugged : link.Plugged number inbox) {done : Option Bytes → MemoryLink → Prop}
    {failed : PeerFault → MemoryLink → Prop}
    (taken : ∀ pairs counters, { link with pairs, counters }.Plugged number inbox →
      { link with pairs, counters }.waiting = link.waiting.tail →
      done link.waiting.head? { link with pairs, counters }) :
    peerReceive.Ensures done failed link := by
  refine (ensures_bind _ _).mpr (peerPair_ensures plugged fun pair own near waits => ?_)
  rw [← waits] at taken
  split
  · rename_i none
    rw [none] at taken waits
    exact taken link.pairs link.counters plugged waits.symm
  · rename_i frame rest more
    rw [more] at taken
    have unqueued := plugged.update (fun pair => { pair with outbox := rest }) (fun _ => rfl) (fun _ => rfl)
      fun _ same => same
    have left := plugged.waiting_update (fun _ => rest) (f := fun pair => { pair with outbox := rest })
      (fun _ => rfl) fun _ => rfl
    simp only [ensures_bind, ensures_modify, ensures_pure, own]
    exact taken _ _ ⟨unqueued.peer, unqueued.pair⟩ left

/-- Without a peer nothing is sent or received at the far end. -/
theorem peerPair_refused (unplugged : link.peer = none) {done : Pair → MemoryLink → Prop}
    {failed : PeerFault → MemoryLink → Prop} (refused : failed .unplugged link) :
    peerPair.Ensures done failed link := by
  simp only [peerPair, ensures_bind, ensures_get, unplugged, Option.bind_none, ensures_fail]
  exact refused

/-- Reading a counter does no more than disarm a failure. -/
theorem readStat_ensures (name stat : String) {done : UInt64 → MemoryLink → Prop}
    {failed : Error → MemoryLink → Prop} (read : ∀ count fault, done count { link with fault })
    (refused : ∀ error fault, failed error { link with fault }) :
    (readStat name stat).Ensures done failed link := by
  simp only [readStat, inject, requireLink, ensures_bind, ensures_get, ensures_ite, ensures_modify, ensures_fail,
    ensures_pure]
  split
  · exact refused _ _
  · split
    · exact refused _ link.fault
    · cases Stat.ofName stat with
      | error error => exact refused error link.fault
      | ok index => exact read _ link.fault

end VirtualLink.MemoryLink
