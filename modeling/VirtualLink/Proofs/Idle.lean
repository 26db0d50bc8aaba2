import VirtualLink.Proofs.Lasting
import VirtualLink.Proofs.MemoryLink.Channel

namespace VirtualLink

open Call Driven

/-- All that has changed is what is still to be committed, the counters of both sides, and the order to fail. -/
def Idled (before after : Driven MemoryLink) : Prop :=
  ∃ settings mtuChosen tallies counters fault,
    after = ⟨{ before.iface with settings, mtuChosen, counters := tallies }, { before.backend with counters, fault }⟩

namespace Idled

variable {driven : Driven MemoryLink}

theorem refl (driven : Driven MemoryLink) : Idled driven driven :=
  ⟨_, _, _, _, _, rfl⟩

theorem lasting (down : driven.iface.isUp = false) : Lasting MemoryLink.backend (Idled driven) where
  settings _ _ _ _ _ before := by
    obtain ⟨_, _, _, _, _, ⟨⟩⟩ := before
    exact ⟨_, _, _, _, _, rfl⟩
  counters _ _ before := by
    obtain ⟨_, _, _, _, _, ⟨⟩⟩ := before
    exact ⟨_, _, _, _, _, rfl⟩
  readStat _ stat before := by
    obtain ⟨_, _, _, _, _, rfl⟩ := before
    refine (ensures_onBackend _).mpr (MemoryLink.readStat_ensures _ stat (fun _ _ => ?_) fun _ _ => ?_)
    · exact ⟨_, _, _, _, _, rfl⟩
    · exact ⟨_, _, _, _, _, rfl⟩
  write _ _ _ up _ before := by
    obtain ⟨_, _, _, _, _, rfl⟩ := before
    exact absurd up (by simp [down])

/-- Of an interface that is down and a link without a peer, only a bring-up changes more. -/
theorem step (down : driven.iface.isUp = false) (unplugged : driven.backend.peer = none) (move : Move)
    (stays : move ≠ .own .up) : Idled driven (move.call driven).state := by
  cases move with
  | own action =>
    have other (raise : action ≠ .up) (lower : action ≠ .down) (arrive : action ≠ .receive) :
        Idled driven ((Move.own action).call driven).state :=
      Move.own_ensures ((lasting down).call action raise lower arrive driven (refl driven))
    cases action with
    | up => exact absurd rfl stays
    | down => exact Move.own_ensures ((ensures_map _ _).mpr (down_refused down (refl driven)))
    | receive =>
      have receive : (Driven.receive MemoryLink.backend).Keeps (Idled driven) := by
        refine Lasting.receive fun _ _ up _ before => ?_
        obtain ⟨_, _, _, _, _, rfl⟩ := before
        exact absurd up (by simp [down])
      exact Move.own_ensures ((receive.map _) driven (refl driven))
    | _ => exact other (by simp) (by simp) (by simp)
  | peerSend frame =>
    refine ensures_state_iff.mp ?_
    simp only [Move.call, ensures_map, ensures_attempt, ensures_onBackend, MemoryLink.peerSend, ensures_bind]
    exact MemoryLink.peerPair_refused unplugged (refl driven)
  | peerReceive =>
    refine ensures_state_iff.mp ?_
    simp only [Move.call, ensures_map, ensures_attempt, ensures_onBackend, MemoryLink.peerReceive, ensures_bind]
    exact MemoryLink.peerPair_refused unplugged (refl driven)
  | setStat name value =>
    refine ensures_state_iff.mp ?_
    simp only [Move.call, ensures_map, ensures_attempt, ensures_onBackend, MemoryLink.setStat, ensures_bind]
    cases Stat.ofName name with
    | error error => exact refl driven
    | ok index => exact ⟨_, _, _, _, _, rfl⟩
  | arm op => exact ⟨_, _, _, _, _, rfl⟩

end Idled

end VirtualLink
