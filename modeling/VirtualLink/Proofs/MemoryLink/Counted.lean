import VirtualLink.Proofs.MemoryLink.BringUp
import VirtualLink.Proofs.Tally

namespace VirtualLink.MemoryLink

open Call

variable {link after : MemoryLink}

/-- Nothing passed between the interface and the peer, and the link is still what it was for them. All that can have
happened to the order to fail is that it struck. -/
structure Quiet (link after : MemoryLink) : Prop where
  counters : after.counters = link.counters
  attached : after.attached = link.attached
  peer : after.peer = link.peer
  existence : after.state.exists? = link.state.exists?
  fault : after.fault = link.fault ∨ after.fault = none

theorem quiet_pairs (pairs : List Pair) : link.Quiet { link with pairs } :=
  ⟨rfl, rfl, rfl, rfl, .inl rfl⟩

theorem quiet_disarmed : link.Quiet link.disarmed :=
  ⟨rfl, rfl, rfl, rfl, .inr rfl⟩

theorem quiet_granted (changes : List Request) : link.Quiet (link.granted changes) :=
  ⟨rfl, rfl, rfl, granted_exists changes, .inl rfl⟩

theorem request_quiet (name : String) (change : Request) :
    (backend.request name change).Ensures (fun _ => link.Quiet) (fun _ => link.Quiet) link := by
  cases there : link.state.exists? with
  | true =>
    rw [backend_request, request_ensures name change there]
    split
    · exact quiet_disarmed
    · exact quiet_granted [change]
  | false =>
    simp only [backend, request, inject, requireLink, ensures_bind, ensures_get, ensures_ite, ensures_modify,
      ensures_fail, ensures_pure, there]
    split
    · exact quiet_disarmed
    · exact quiet_pairs link.pairs

/-- Frames got on or off their way, and that is all. -/
def Conveyed (link after : MemoryLink) : Prop :=
  ∃ pairs, after = { link with pairs }

theorem Conveyed.refl (link : MemoryLink) : link.Conveyed link :=
  ⟨link.pairs, rfl⟩

theorem Conveyed.quiet (conveyed : link.Conveyed after) : link.Quiet after := by
  obtain ⟨pairs, rfl⟩ := conveyed
  exact quiet_pairs pairs

theorem read_conveys (descriptor : Descriptor) (limit : Nat) :
    (backend.read descriptor limit).Ensures (fun _ => link.Conveyed) (fun _ => link.Conveyed) link := by
  simp only [backend, read, ensures_bind, ensures_get]
  split
  · exact .refl link
  · split
    · exact .refl link
    · exact ⟨_, rfl⟩

theorem write_conveys (descriptor : Descriptor) (frame : Bytes) :
    (backend.write descriptor frame).Ensures (fun _ => link.Conveyed) (fun _ => link.Conveyed) link := by
  simp only [backend, write, ensures_bind, ensures_get]
  split
  · exact .refl link
  · simp only [ensures_ite, ensures_bind, ensures_modify, ensures_pure, ensures_fail]
    split
    · exact ⟨_, rfl⟩
    · split
      · exact .refl link
      · exact ⟨_, rfl⟩

/-- A counter that is there is read as it stands, unless that was to fail. -/
theorem readStat_ensures_of_exists (name : String) (stat : Stat) (there : link.state.exists? = true)
    {done : UInt64 → MemoryLink → Prop} {failed : Error → MemoryLink → Prop} :
    (readStat name stat.name).Ensures done failed link
      ↔ if link.fault = some .readStat then failed (refusal .readStat name) link.disarmed
        else done (link.counters.get stat) link := by
  simp only [readStat, ensures_bind, inject_ensures, requireLink_ensures name there, Stat.ofName_name,
    ensures_ofExcept_ok, ensures_get, ensures_pure]

/-- What a created link counted is gone with it. -/
theorem opened_counter (kind : Kind) (stat : Stat) :
    (link.opened kind).counters.get stat = if link.attached = true then link.counters.get stat else 0 := by
  unfold opened reopened
  split
  · rfl
  · simp [record, connect, PerStat.get]

theorem opened_exists (kind : Kind) (there : link.attached = true → link.state.exists? = true) :
    (link.opened kind).state.exists? = true := by
  unfold opened reopened
  split
  · rename_i attached
    exact there attached
  · rfl

theorem released_counters (queues : Queues) : (link.released queues).counters = link.counters := by
  unfold released
  split
  · obtain ⟨_, shut⟩ := shut_eq queues link.disarmed
    rw [shut]
    rfl
  · obtain ⟨_, shut⟩ := shut_eq queues link
    rw [shut]
    rfl

theorem released_fault (queues : Queues) :
    (link.released queues).fault = link.fault ∨ (link.released queues).fault = none := by
  unfold released
  split
  · obtain ⟨_, shut⟩ := shut_eq queues link.disarmed
    rw [shut]
    exact .inr rfl
  · obtain ⟨_, shut⟩ := shut_eq queues link
    rw [shut]
    exact .inl rfl

theorem toNat_count_self (stat : Stat) {amount : Nat} (fits : (link.counters.get stat).toNat + amount < UInt64.size) :
    ((link.count stat amount).counters.get stat).toNat = (link.counters.get stat).toNat + amount := by
  have small : (UInt64.ofNat amount).toNat = amount := UInt64.toNat_ofNat_of_lt (by omega)
  rw [count, PerStat.get_put_self, toNat_addCapped_of_lt]
  · rw [small]
  · rw [small]
    exact fits

theorem count_of_ne {stat other : Stat} (link : MemoryLink) (amount : Nat) (apart : stat ≠ other) :
    (link.count other amount).counters.get stat = link.counters.get stat :=
  PerStat.get_put_of_ne _ _ apart

/-- The counters once a frame is counted as one packet and as so many bytes. -/
def counted (link : MemoryLink) (packets bytes : Stat) (frame : Bytes) : PerStat UInt64 :=
  ((link.count packets 1).count bytes frame.length).counters

/-- What a frame adds to this counter if it counts as a packet on one and with its bytes on the other. -/
def share (packets bytes stat : Stat) (frame : Bytes) : Nat :=
  if stat = packets then 1 else if stat = bytes then frame.length else 0

theorem toNat_counted {packets bytes stat : Stat} {frame : Bytes} (apart : packets ≠ bytes)
    (fits : (link.counters.get stat).toNat + share packets bytes stat frame < UInt64.size) :
    ((link.counted packets bytes frame).get stat).toNat
      = (link.counters.get stat).toNat + share packets bytes stat frame := by
  unfold share at fits ⊢
  unfold counted
  split at fits
  · rename_i own
    subst own
    rw [if_pos rfl, count_of_ne _ _ apart, toNat_count_self _ fits]
  · rename_i other
    rw [if_neg other]
    split at fits
    · rename_i own
      subst own
      have before := link.count_of_ne 1 other
      rw [if_pos rfl, toNat_count_self, before]
      rw [before]
      exact fits
    · rename_i neither
      rw [if_neg neither, count_of_ne _ _ neither, count_of_ne _ _ other, Nat.add_zero]

/-- The link counts what the peer sends as transmitted. -/
theorem peerSend_counted (link : MemoryLink) (frame : Bytes) :
    (peerSend frame).Ensures
      (fun _ after => link.peer.isSome
        ∧ ∃ pairs, after = { link with pairs, counters := link.counted .txPackets .txBytes frame })
      (fun _ => link.Conveyed) link := by
  simp only [peerSend, peerPair, ensures_bind, ensures_get]
  cases far : link.peer.bind link.pair? with
  | none => exact .refl link
  | some pair =>
    have plugged : link.peer.isSome := by
      cases peer : link.peer <;> simp [peer] at far ⊢
    simp only [ensures_pure, ensures_ite, ensures_modify, ensures_bind, ensures_fail]
    split
    · exact ⟨plugged, _, rfl⟩
    · split
      · exact .refl link
      · exact ⟨_, rfl⟩

/-- What the peer receives as received. -/
theorem peerReceive_counted (link : MemoryLink) :
    peerReceive.Ensures
      (fun arrived after => match arrived with
        | none => link.Conveyed after
        | some frame => link.peer.isSome
          ∧ ∃ pairs, after = { link with pairs, counters := link.counted .rxPackets .rxBytes frame })
      (fun _ => link.Conveyed) link := by
  simp only [peerReceive, peerPair, ensures_bind, ensures_get]
  cases far : link.peer.bind link.pair? with
  | none => exact .refl link
  | some pair =>
    have plugged : link.peer.isSome := by
      cases peer : link.peer <;> simp [peer] at far ⊢
    simp only [ensures_pure]
    split
    · exact .refl link
    · exact ⟨plugged, _, rfl⟩

end VirtualLink.MemoryLink
