import VirtualLink.Counters

namespace VirtualLink

theorem toNat_addCapped (a b : UInt64) :
    (addCapped a b).toNat = min (a.toNat + b.toNat) (UInt64.size - 1) := by
  have largest := Nat.min_le_right (a.toNat + b.toNat) (UInt64.size - 1)
  exact UInt64.toNat_ofNat_of_lt (Nat.lt_of_le_of_lt largest (by decide))

theorem toNat_addCapped_of_lt {a b : UInt64} (fits : a.toNat + b.toNat < UInt64.size) :
    (addCapped a b).toNat = a.toNat + b.toNat := by
  rw [toNat_addCapped]
  omega

theorem toNat_subCapped (a b : UInt64) : (subCapped a b).toNat = a.toNat - b.toNat := by
  have bound := a.toNat_lt_size
  exact UInt64.toNat_ofNat_of_lt (by omega)

namespace Stat

theorem ofName_name (stat : Stat) : ofName stat.name = .ok stat := by
  have known : ∀ stat : Stat, ofName? stat.name = some stat := by decide
  unfold ofName
  rw [known stat]

theorem name_injective {stat other : Stat} (same : stat.name = other.name) : stat = other := by
  have found := ofName_name stat
  rw [same, ofName_name other] at found
  exact (Except.ok.inj found).symm

theorem name_of_ofName {name : String} {stat : Stat} (found : ofName name = .ok stat) : stat.name = name := by
  unfold ofName at found
  split at found
  · rename_i other known
    obtain rfl := Except.ok.inj found
    have matched := List.find?_some known
    exact eq_of_beq matched
  · cases found

end Stat

namespace Tally

variable {tally : Tally}

theorem toNat_total (fits : tally.carried.toNat + tally.current.toNat < UInt64.size) :
    tally.total.toNat = tally.carried.toNat + tally.current.toNat :=
  toNat_addCapped_of_lt fits

theorem toNat_value (fits : tally.carried.toNat + tally.current.toNat < UInt64.size) :
    tally.value.toNat = tally.carried.toNat + tally.current.toNat - tally.baseline.toNat := by
  rw [value, toNat_subCapped, toNat_total fits]

theorem observe_of_le {reading : UInt64} (grows : tally.current ≤ reading) :
    tally.observe reading = { tally with current := reading } :=
  if_neg (UInt64.not_lt.mpr grows)

theorem observe_of_lt {reading : UInt64} (restarted : reading < tally.current) :
    tally.observe reading = { tally with carried := tally.total, current := reading } :=
  if_pos restarted

/-- What was counted before the last clear was counted before now. -/
def Sound (tally : Tally) : Prop :=
  tally.baseline ≤ tally.total

/-- However low a reading is, the total does not get lower. -/
theorem total_le_observe (tally : Tally) (reading : UInt64) : tally.total ≤ (tally.observe reading).total := by
  rw [UInt64.le_iff_toNat_le]
  by_cases restarted : reading < tally.current
  · rw [observe_of_lt restarted]
    simp only [total, toNat_addCapped]
    omega
  · have grows := UInt64.le_iff_toNat_le.mp (UInt64.not_lt.mp restarted)
    rw [observe_of_le (UInt64.not_lt.mp restarted)]
    simp only [total, toNat_addCapped]
    omega

theorem baseline_observe (tally : Tally) (reading : UInt64) : (tally.observe reading).baseline = tally.baseline := by
  unfold observe
  split <;> rfl

/-- A total stays as it is if there is nothing to add, or no more room. -/
theorem total_observe_eq_iff (tally : Tally) (reading : UInt64) :
    (tally.observe reading).total = tally.total
      ↔ reading = 0 ∨ reading = tally.current ∨ tally.total.toNat = UInt64.size - 1 := by
  have zero : reading = 0 ↔ reading.toNat = 0 := UInt64.toNat_inj.symm
  have same : reading = tally.current ↔ reading.toNat = tally.current.toNat := UInt64.toNat_inj.symm
  have carried := tally.carried.toNat_lt_size
  rw [← UInt64.toNat_inj, zero, same]
  by_cases restarted : reading < tally.current
  · have less := UInt64.lt_iff_toNat_lt.mp restarted
    rw [observe_of_lt restarted]
    simp only [total, toNat_addCapped]
    omega
  · have grows := UInt64.le_iff_toNat_le.mp (UInt64.not_lt.mp restarted)
    rw [observe_of_le (UInt64.not_lt.mp restarted)]
    simp only [total, toNat_addCapped]
    omega

/-- A reading shows in the value of a counter, unless the total stays as it is or does not get beyond the last clear. -/
theorem value_observe_eq_iff (tally : Tally) (reading : UInt64) :
    (tally.observe reading).value = tally.value
      ↔ reading = 0 ∨ reading = tally.current ∨ tally.total.toNat = UInt64.size - 1
        ∨ (tally.observe reading).total ≤ tally.baseline := by
  have grows := UInt64.le_iff_toNat_le.mp (tally.total_le_observe reading)
  have total := tally.total_observe_eq_iff reading
  rw [← UInt64.toNat_inj] at total
  simp only [← or_assoc] at total ⊢
  rw [← total, ← UInt64.toNat_inj, value, value, toNat_subCapped, toNat_subCapped, baseline_observe,
    UInt64.le_iff_toNat_le]
  omega

theorem total_retire (origin : Origin) (tally : Tally) : (tally.retire origin).total = tally.total := by
  cases origin with
  | attached => rfl
  | created =>
    have zero : (0 : UInt64).toNat = 0 := rfl
    refine UInt64.toNat_inj.mp ?_
    simp only [retire, total, toNat_addCapped, zero]
    omega

theorem baseline_retire (origin : Origin) (tally : Tally) : (tally.retire origin).baseline = tally.baseline := by
  cases origin <;> rfl

theorem value_retire (origin : Origin) (tally : Tally) : (tally.retire origin).value = tally.value := by
  rw [value, value, total_retire, baseline_retire]

theorem Sound.observe (sound : tally.Sound) (reading : UInt64) : (tally.observe reading).Sound := by
  rw [Sound, baseline_observe]
  exact UInt64.le_trans sound (tally.total_le_observe reading)

theorem sound_clear (tally : Tally) : tally.clear.Sound :=
  UInt64.le_refl _

theorem Sound.retire (sound : tally.Sound) (origin : Origin) : (tally.retire origin).Sound := by
  rw [Sound, total_retire, baseline_retire]
  exact sound

/-- As long as the readings do not decrease, only the last one counts. -/
theorem foldl_observe (readings : List UInt64) (grows : (tally.current :: readings).Pairwise (· ≤ ·)) :
    readings.foldl observe tally = { tally with current := readings.getLastD tally.current } := by
  induction readings generalizing tally with
  | nil => rfl
  | cons reading rest ih =>
    obtain ⟨least, later⟩ := List.pairwise_cons.mp grows
    have first := observe_of_le (least reading (List.mem_cons_self ..))
    rw [List.foldl_cons, first, ih later, List.getLastD_cons]

/-- A counter that started over adds to what was counted before, if its first reading gives it away or if there
was nothing that it could be taken to continue. -/
theorem value_restarted_iff {first : UInt64} {rest : List UInt64} (sound : tally.Sound)
    (grows : (first :: rest).Pairwise (· ≤ ·))
    (fits : tally.carried.toNat + tally.current.toNat + (rest.getLastD first).toNat < UInt64.size) :
    ((first :: rest).foldl observe tally).value.toNat = tally.value.toNat + (rest.getLastD first).toNat
      ↔ tally.current = 0 ∨ first < tally.current := by
  generalize last : rest.getLastD first = reading at fits ⊢
  have least : first ≤ reading := by
    rcases List.mem_cons.mp (List.getLastD_mem_cons (l := rest) (a := first)) with same | later
    · exact UInt64.le_of_eq (last ▸ same.symm)
    · exact (List.pairwise_cons.mp grows).1 reading (last ▸ later)
  have small : tally.carried.toNat + tally.current.toNat < UInt64.size := by omega
  have before := toNat_value small
  have total := toNat_total small
  have counted : tally.baseline.toNat ≤ tally.carried.toNat + tally.current.toNat := by
    rw [← total]
    exact UInt64.le_iff_toNat_le.mp sound
  rw [List.foldl_cons]
  by_cases restarted : first < tally.current
  · rw [observe_of_lt restarted, foldl_observe rest grows, last, toNat_value, before, total]
    · refine iff_of_true ?_ (.inr restarted)
      dsimp only
      omega
    · dsimp only
      omega
  · have continued := UInt64.not_lt.mp restarted
    rw [observe_of_le continued, foldl_observe rest grows, last, toNat_value, before]
    · rw [UInt64.le_iff_toNat_le] at continued least
      have nothing : tally.current = 0 ↔ tally.current.toNat = 0 := by
        rw [← UInt64.toNat_inj]
        rfl
      rw [or_iff_left restarted, nothing]
      dsimp only
      omega
    · dsimp only
      omega

end Tally

namespace Counters

theorem tally_update (counters : Counters) (stat other : Stat) (f : Tally → Tally) :
    (counters.update other f).tally stat = if other = stat then f (counters.tally stat) else counters.tally stat := by
  split
  · rename_i same
    subst same
    exact counters.tally_update_self ..
  · rename_i apart
    exact counters.tally_update_of_ne f (Ne.symm apart)

theorem tally_new (stat : Stat) : ({} : Counters).tally stat = {} := by
  simp [tally, PerStat.get]

end Counters

end VirtualLink
