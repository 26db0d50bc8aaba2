import VirtualLink.Proofs.Tally

namespace VirtualLink

/-- What can happen to the counters of an interface. -/
inductive Counters.Change
  | observe (stat : Stat) (reading : UInt64)
  | clear (stat : Stat)
  | retire (origin : Origin)
deriving DecidableEq

namespace Counters

def apply (counters : Counters) : Change → Counters
  | .observe stat reading => counters.observe stat reading
  | .clear stat => counters.clear stat
  | .retire origin => counters.retire origin

/-- The counters of a new interface after the changes. -/
def after (changes : List Change) : Counters :=
  changes.foldl apply {}

end Counters

/-- A number as far as a word can hold it. -/
def capped (n : Nat) : Nat :=
  min n (UInt64.size - 1)

theorem capped_mono {m n : Nat} (le : m ≤ n) : capped m ≤ capped n := by
  simp only [capped]
  omega

theorem toNat_addCapped_of_capped {a : UInt64} {n : Nat} (first : a.toNat = capped n) (b : UInt64) :
    (addCapped a b).toNat = capped (n + b.toNat) := by
  rw [toNat_addCapped, first]
  simp only [capped]
  omega

/-- What the readings of one counter come to, in numbers without a bound: the reading that the next one is held
against, the sum of what all of them added, and that sum at the last clear. -/
structure Reckoning where
  previous : Nat := 0
  sum : Nat := 0
  cleared : Nat := 0
deriving DecidableEq

namespace Reckoning

/-- A reading adds what it is above the one before. If it is below, the counter has started over, and it adds all of
itself. -/
def read (reckoning : Reckoning) (reading : Nat) : Reckoning :=
  { reckoning with
    previous := reading
    sum := reckoning.sum + if reading < reckoning.previous then reading else reading - reckoning.previous }

/-- The reckoning of this counter after a change. Only a link that was created takes its reading with it. -/
def enter (stat : Stat) (reckoning : Reckoning) : Counters.Change → Reckoning
  | .observe other reading => if other = stat then reckoning.read reading.toNat else reckoning
  | .clear other => if other = stat then { reckoning with cleared := reckoning.sum } else reckoning
  | .retire .created => { reckoning with previous := 0 }
  | .retire .attached => reckoning

def after (stat : Stat) (changes : List Counters.Change) : Reckoning :=
  changes.foldl (enter stat) {}

theorem sum_read_of_lt {reckoning : Reckoning} {reading : Nat} (restarted : reading < reckoning.previous) :
    (reckoning.read reading).sum = reckoning.sum + reading :=
  congrArg (reckoning.sum + ·) (if_pos restarted)

theorem sum_read_of_le {reckoning : Reckoning} {reading : Nat} (grows : reckoning.previous ≤ reading) :
    (reckoning.read reading).sum = reckoning.sum + (reading - reckoning.previous) :=
  congrArg (reckoning.sum + ·) (if_neg (Nat.not_lt.mpr grows))

theorem after_append (stat : Stat) (changes later : List Counters.Change) :
    after stat (changes ++ later) = later.foldl (enter stat) (after stat changes) :=
  List.foldl_append

theorem sum_le_enter (stat : Stat) (reckoning : Reckoning) (change : Counters.Change) :
    reckoning.sum ≤ (reckoning.enter stat change).sum := by
  cases change with
  | observe other reading =>
    simp only [enter]
    split
    · exact Nat.le_add_right _ _
    · exact Nat.le_refl _
  | clear other =>
    simp only [enter]
    split <;> exact Nat.le_refl _
  | retire origin => cases origin <;> exact Nat.le_refl _

theorem cleared_enter {stat : Stat} {change : Counters.Change} (other : change ≠ .clear stat)
    (reckoning : Reckoning) : (reckoning.enter stat change).cleared = reckoning.cleared := by
  cases change with
  | observe other reading =>
    simp only [enter]
    split <;> rfl
  | clear cleared => exact congrArg Reckoning.cleared (if_neg fun same => other (congrArg _ same))
  | retire origin => cases origin <;> rfl

/-- Without a clear the sum only grows, and what was cleared stays. -/
theorem foldl_enter {stat : Stat} {later : List Counters.Change} (uncleared : .clear stat ∉ later)
    (reckoning : Reckoning) :
    reckoning.sum ≤ (later.foldl (enter stat) reckoning).sum
      ∧ (later.foldl (enter stat) reckoning).cleared = reckoning.cleared := by
  induction later generalizing reckoning with
  | nil => exact ⟨Nat.le_refl _, rfl⟩
  | cons change rest ih =>
    rw [List.mem_cons, not_or] at uncleared
    obtain ⟨grows, same⟩ := ih uncleared.2 (reckoning.enter stat change)
    have step := reckoning.sum_le_enter stat change
    exact ⟨Nat.le_trans step grows, same.trans (cleared_enter (Ne.symm uncleared.1) reckoning)⟩

end Reckoning

/-- The tally is that of the reckoning, as far as words can hold it. What is carried is what the reckoning has summed
without the reading that the next one is held against. -/
structure Tally.Follows (tally : Tally) (reckoning : Reckoning) : Prop where
  previous : tally.current.toNat = reckoning.previous
  carried : ∃ earlier, earlier + reckoning.previous = reckoning.sum ∧ tally.carried.toNat = capped earlier
  cleared : tally.baseline.toNat = capped reckoning.cleared
  clearedLe : reckoning.cleared ≤ reckoning.sum

namespace Tally.Follows

open Reckoning

variable {tally : Tally} {reckoning : Reckoning}

theorem new : ({} : Tally).Follows {} where
  previous := rfl
  carried := ⟨0, rfl, rfl⟩
  cleared := rfl
  clearedLe := Nat.le_refl _

theorem total (follows : tally.Follows reckoning) : tally.total.toNat = capped reckoning.sum := by
  obtain ⟨earlier, sum, carried⟩ := follows.carried
  rw [Tally.total, toNat_addCapped_of_capped carried, follows.previous, sum]

theorem value (follows : tally.Follows reckoning) :
    tally.value.toNat + capped reckoning.cleared = capped reckoning.sum := by
  have bound := capped_mono follows.clearedLe
  rw [Tally.value, toNat_subCapped, follows.total, follows.cleared]
  omega

theorem observe (follows : tally.Follows reckoning) (reading : UInt64) :
    (tally.observe reading).Follows (reckoning.read reading.toNat) := by
  obtain ⟨earlier, sum, carried⟩ := follows.carried
  have clearedLe := follows.clearedLe
  by_cases restarted : reading < tally.current
  · have below : reading.toNat < reckoning.previous := follows.previous ▸ UInt64.lt_iff_toNat_lt.mp restarted
    have added := sum_read_of_lt below
    rw [observe_of_lt restarted]
    exact
      { previous := rfl
        carried := ⟨reckoning.sum, added.symm, follows.total⟩
        cleared := follows.cleared
        clearedLe := added ▸ Nat.le_add_right_of_le clearedLe }
  · have continued := UInt64.not_lt.mp restarted
    have grows : reckoning.previous ≤ reading.toNat := follows.previous ▸ UInt64.le_iff_toNat_le.mp continued
    have added := sum_read_of_le grows
    have whole : earlier + reading.toNat = (reckoning.read reading.toNat).sum := by omega
    rw [observe_of_le continued]
    exact
      { previous := rfl
        carried := ⟨earlier, whole, carried⟩
        cleared := follows.cleared
        clearedLe := added ▸ Nat.le_add_right_of_le clearedLe }

theorem clear (follows : tally.Follows reckoning) :
    tally.clear.Follows { reckoning with cleared := reckoning.sum } :=
  { follows with cleared := follows.total, clearedLe := Nat.le_refl _ }

theorem retire (follows : tally.Follows reckoning) :
    (tally.retire .created).Follows { reckoning with previous := 0 } :=
  { follows with previous := rfl, carried := ⟨reckoning.sum, rfl, follows.total⟩ }

end Tally.Follows

namespace Counters

open Reckoning

variable {counters : Counters} {stat : Stat} {reckoning : Reckoning}

theorem follows_apply (follows : (counters.tally stat).Follows reckoning) (change : Change) :
    ((counters.apply change).tally stat).Follows (reckoning.enter stat change) := by
  cases change with
  | observe other reading =>
    simp only [apply, observe, tally_update, enter]
    split
    · exact follows.observe reading
    · exact follows
  | clear other =>
    simp only [apply, clear, tally_update, enter]
    split
    · exact follows.clear
    · exact follows
  | retire origin =>
    rw [apply, tally_retire]
    cases origin with
    | attached => exact follows
    | created => exact follows.retire

theorem follows_foldl (follows : (counters.tally stat).Follows reckoning) (changes : List Change) :
    ((changes.foldl apply counters).tally stat).Follows (changes.foldl (enter stat) reckoning) := by
  induction changes generalizing counters reckoning with
  | nil => exact follows
  | cons change rest ih => exact ih (follows_apply follows change)

theorem follows_after (stat : Stat) (changes : List Change) :
    ((after changes).tally stat).Follows (Reckoning.after stat changes) := by
  refine follows_foldl ?_ changes
  rw [tally_new]
  exact .new

theorem value_update_of_ne {other : Stat} (apart : other ≠ stat) (f : Tally → Tally) :
    (counters.update other f).value stat = counters.value stat :=
  congrArg Tally.value (tally_update_of_ne _ _ (Ne.symm apart))

theorem value_retire (counters : Counters) (origin : Origin) (stat : Stat) :
    (counters.retire origin).value stat = counters.value stat := by
  rw [value, tally_retire, Tally.value, Tally.total_retire, Tally.baseline_retire]
  rfl

/-- As long as a counter is not cleared, its value does not get lower. -/
theorem value_le_of_uncleared (changes : List Change) {later : List Change} (uncleared : .clear stat ∉ later) :
    (after changes).value stat ≤ (after (changes ++ later)).value stat := by
  have before := (follows_after stat changes).value
  have whole := (follows_after stat (changes ++ later)).value
  obtain ⟨grows, same⟩ := foldl_enter uncleared (Reckoning.after stat changes)
  rw [← after_append] at grows same
  have room := capped_mono grows
  rw [same] at whole
  rw [UInt64.le_iff_toNat_le, value, value]
  omega

/-- The total of a counter is the sum of what its readings added, as far as a word can hold it, and its value is what
the total has gained since the last clear, so that nothing but a clear lowers it. Whatever happens to another counter
leaves it alone, and so does the end of a link. -/
theorem counted_exactly (changes : List Change) (stat : Stat) :
    let counters := after changes
    let reckoning := Reckoning.after stat changes
    (counters.tally stat).total.toNat = capped reckoning.sum
      ∧ (counters.value stat).toNat + capped reckoning.cleared = capped reckoning.sum
      ∧ (∀ later, .clear stat ∉ later → counters.value stat ≤ (after (changes ++ later)).value stat)
      ∧ (∀ other, other ≠ stat → (counters.clear other).value stat = counters.value stat
        ∧ ∀ reading, (counters.observe other reading).value stat = counters.value stat)
      ∧ ∀ origin other, (counters.retire origin).value other = counters.value other := by
  intro counters reckoning
  have follows := follows_after stat changes
  refine ⟨follows.total, follows.value, fun later => value_le_of_uncleared changes, fun other apart => ?_,
    counters.value_retire⟩
  exact ⟨value_update_of_ne apart _, fun reading => value_update_of_ne apart _⟩

/-- A counter is cleared at 500 and starts over at 20. -/
def restarted : List Change :=
  [.observe .rxBytes 500, .clear .rxBytes, .observe .rxBytes 20]

/-- The link goes, and the next one counts all that a word can hold. -/
def overflowing : List Change :=
  [.retire .created, .observe .rxBytes 0xFFFFFFFFFFFFFFFF]

theorem counted_exactly_restarted :
    ((after restarted).value .rxBytes).toNat + 500 = 520
      ∧ (after restarted).value .rxBytes ≤ (after (restarted ++ overflowing)).value .rxBytes
      ∧ ((after restarted).clear .txBytes).value .rxBytes = (after restarted).value .rxBytes := by
  obtain ⟨-, gained, grows, others, -⟩ := counted_exactly restarted .rxBytes
  exact ⟨gained, grows overflowing (by decide), (others .txBytes (by decide)).1⟩

end Counters

end VirtualLink
