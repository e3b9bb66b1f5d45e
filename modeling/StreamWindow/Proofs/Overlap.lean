import Mathlib.Algebra.Order.Floor.Div
import StreamWindow.Proofs.Enumeration

/-!
How many windows overlap at a timestamp: those that have started by then, less those that have
ended. The greatest number of windows for a record is attained, and never passed.
-/

namespace StreamWindow

theorem Word.toNat_stepsToCover {length step : UInt64} (positive : 0 < step.toNat) :
    (Word.stepsToCover length step).toNat = length.toNat ⌈/⌉ step.toNat := by
  have split := Nat.div_add_mod length.toNat step.toNat
  have rest := Nat.mod_lt length.toNat positive
  have small := length.toNat_lt_size
  have fewer := Nat.le_mul_of_pos_left (length.toNat / step.toNat) positive
  have even : length % step = 0 ↔ length.toNat % step.toNat = 0 := by
    rw [← UInt64.toNat_inj, UInt64.toNat_mod, UInt64.toNat_zero]
  rw [Nat.ceilDiv_eq_add_pred_div, eq_comm]
  unfold stepsToCover
  split
  · next measured =>
      have nothing := even.mp measured
      rw [UInt64.add_zero, UInt64.toNat_div]
      apply Nat.div_eq_of_lt_le
      · rw [Nat.mul_comm]
        omega
      · rw [Nat.succ_mul, Nat.mul_comm]
        omega
  · next uneven =>
      have something := mt even.mpr uneven
      have fits : length.toNat / step.toNat + 1 < UInt64.size := by omega
      rw [UInt64.toNat_add, UInt64.toNat_div, UInt64.toNat_one, Nat.mod_eq_of_lt fits]
      apply Nat.div_eq_of_lt_le
      · rw [Nat.succ_mul, Nat.mul_comm]
        omega
      · rw [Nat.succ_mul, Nat.succ_mul, Nat.mul_comm]
        omega

namespace TimeWindows

variable {windows : TimeWindows}

def startedBy (windows : TimeWindows) (time : Nat) : Nat :=
  time / windows.advance.toNat + 1

def endedBy (windows : TimeWindows) (time : Nat) : Nat :=
  (time + windows.advance.toNat - windows.size.toNat) / windows.advance.toNat

theorem lt_startedBy_iff (advanced : windows.advance ≠ 0) (time index : Nat) :
    index < windows.startedBy time ↔ index * windows.advance.toNat ≤ time := by
  unfold startedBy
  rw [Nat.lt_succ_iff, Nat.le_div_iff_mul_le (advance_positive advanced)]

theorem lt_endedBy_iff (advanced : windows.advance ≠ 0) (time index : Nat) :
    index < windows.endedBy time ↔
      index * windows.advance.toNat + windows.size.toNat ≤ time := by
  have positive := advance_positive advanced
  unfold endedBy
  rw [← Nat.succ_le_iff, Nat.le_div_iff_mul_le positive, Nat.succ_mul]
  omega

theorem windowsFor_eq_map (sized : windows.size ≠ 0) (advanced : windows.advance ≠ 0)
    {timestamp : UInt64} (early : timestamp.toNat < Word.largest) :
    windows.windowsFor timestamp =
      (List.range' (windows.endedBy timestamp.toNat)
        (windows.startedBy timestamp.toNat - windows.endedBy timestamp.toNat)).map
          windows.bounds := by
  have running (index : Nat) :
      index ∈ List.range' (windows.endedBy timestamp.toNat)
          (windows.startedBy timestamp.toNat - windows.endedBy timestamp.toNat) ↔
        windows.bounds index ∈ windows.windowsFor timestamp := by
    have started := lt_startedBy_iff advanced timestamp.toNat index
    have ended := lt_endedBy_iff advanced timestamp.toNat index
    rw [bounds_mem_windowsFor_iff sized advanced early, List.mem_range'_1]
    omega
  apply eq_of_ascending (windowsFor_ascending windows timestamp)
  · rw [List.pairwise_map]
    apply List.Pairwise.imp_of_mem _ List.pairwise_lt_range'
    intro earlier later _ member ordered
    rw [running, bounds_mem_windowsFor_iff sized advanced early] at member
    exact bounds_start_lt advanced ordered (by omega)
  · intro bounds
    rw [List.mem_map]
    constructor
    · intro member
      obtain ⟨grid, _⟩ := (mem_windowsFor_iff sized advanced).mp member
      obtain ⟨index, _, rfl⟩ := onGrid_iff.mp grid
      exact ⟨index, (running index).mpr member, rfl⟩
    · rintro ⟨index, member, rfl⟩
      exact (running index).mp member

theorem length_windowsFor (sized : windows.size ≠ 0) (advanced : windows.advance ≠ 0)
    {timestamp : UInt64} (early : timestamp.toNat < Word.largest) :
    (windows.windowsFor timestamp).length =
      windows.startedBy timestamp.toNat - windows.endedBy timestamp.toNat := by
  rw [windowsFor_eq_map sized advanced early, List.length_map, List.length_range']

theorem size_ne_zero_of_pos (sized : 0 < windows.size.toNat) : windows.size ≠ 0 := by
  intro zero
  rw [zero, UInt64.toNat_zero] at sized
  omega

theorem startedBy_le (advanced : windows.advance ≠ 0) (time : Nat) :
    windows.startedBy time ≤
      windows.endedBy time + windows.size.toNat ⌈/⌉ windows.advance.toNat := by
  have positive := advance_positive advanced
  have covered : windows.size.toNat ≤
      windows.size.toNat ⌈/⌉ windows.advance.toNat * windows.advance.toNat := by
    rw [Nat.mul_comm]
    exact le_smul_ceilDiv positive
  have running := lt_endedBy_iff advanced time (windows.endedBy time)
  have unstarted := lt_startedBy_iff advanced time
    (windows.endedBy time + windows.size.toNat ⌈/⌉ windows.advance.toNat)
  rw [Nat.add_mul] at unstarted
  omega

theorem le_startedBy (advanced : windows.advance ≠ 0)
    (overlap : windows.advance.toNat ≤ windows.size.toNat) {time : Nat}
    (late : windows.size.toNat - 1 ≤ time) :
    windows.endedBy time + windows.size.toNat / windows.advance.toNat ≤
      windows.startedBy time := by
  have positive := advance_positive advanced
  have within := Nat.div_mul_le_self windows.size.toNat windows.advance.toNat
  obtain ⟨more, count⟩ : ∃ more, windows.size.toNat / windows.advance.toNat = more + 1 :=
    Nat.exists_eq_add_one.mpr (Nat.div_pos overlap positive)
  rw [count, Nat.succ_mul] at within
  have started := lt_startedBy_iff advanced time (windows.endedBy time + more)
  rw [Nat.add_mul] at started
  -- If none has ended the time is late enough by assumption, else by what it takes to end one.
  cases ended : windows.endedBy time with
  | zero =>
      rw [ended, Nat.zero_mul] at started
      omega
  | succ last =>
      have passed := lt_endedBy_iff advanced time last
      rw [ended, Nat.succ_mul] at started
      omega

theorem length_windowsFor_early (advanced : windows.advance ≠ 0) {timestamp : UInt64}
    (early : timestamp.toNat < Word.largest) (first : timestamp.toNat < windows.size.toNat) :
    (windows.windowsFor timestamp).length = timestamp.toNat / windows.advance.toNat + 1 := by
  have sized : windows.size ≠ 0 := size_ne_zero_of_pos (by omega)
  have unended := lt_endedBy_iff advanced timestamp.toNat 0
  have started : windows.startedBy timestamp.toNat =
      timestamp.toNat / windows.advance.toNat + 1 := rfl
  rw [length_windowsFor sized advanced early]
  omega

theorem exists_length_windowsFor (advanced : windows.advance ≠ 0) {index : Nat}
    (first : index * windows.advance.toNat < windows.size.toNat) :
    ∃ timestamp : UInt64, timestamp.toNat < Word.largest ∧
      (windows.windowsFor timestamp).length = index + 1 := by
  have positive := advance_positive advanced
  have bound := Word.toNat_le_largest windows.size
  have start : (Word.clamp (index * windows.advance.toNat)).toNat =
      index * windows.advance.toNat := by
    rw [Word.toNat_clamp]
    omega
  refine ⟨Word.clamp (index * windows.advance.toNat), by omega, ?_⟩
  rw [length_windowsFor_early advanced (by omega) (by omega), start,
    Nat.mul_div_cancel _ positive]

theorem length_windowsFor_le (advanced : windows.advance ≠ 0) (timestamp : UInt64) :
    (windows.windowsFor timestamp).length ≤ windows.size.toNat ⌈/⌉ windows.advance.toNat := by
  by_cases sized : windows.size = 0
  · rw [windowsFor_of_zero (.inl sized), List.length_nil]
    omega
  · by_cases early : timestamp.toNat < Word.largest
    · have bound := startedBy_le advanced timestamp.toNat
      rw [length_windowsFor sized advanced early]
      omega
    · rw [windowsFor_largest (by omega), List.length_nil]
      omega

theorem exists_most_windows (advanced : windows.advance ≠ 0) :
    ∃ timestamp : UInt64, timestamp.toNat < Word.largest ∧
      (windows.windowsFor timestamp).length = windows.size.toNat ⌈/⌉ windows.advance.toNat := by
  have positive := advance_positive advanced
  cases most : windows.size.toNat ⌈/⌉ windows.advance.toNat with
  | zero =>
      have bound := length_windowsFor_le advanced 0
      exact ⟨0, by decide, by omega⟩
  | succ index =>
      have first : index * windows.advance.toNat < windows.size.toNat := by
        have short := (ceilDiv_le_iff_le_mul (b := windows.size.toNat) (c := index) positive).mpr
        rw [Nat.mul_comm]
        omega
      exact exists_length_windowsFor advanced first

theorem exists_fewest_windows (advanced : windows.advance ≠ 0)
    (overlap : windows.advance.toNat ≤ windows.size.toNat) :
    ∃ timestamp : UInt64, timestamp.toNat < Word.largest ∧
      (windows.windowsFor timestamp).length = windows.size.toNat / windows.advance.toNat := by
  have positive := advance_positive advanced
  have within := Nat.div_mul_le_self windows.size.toNat windows.advance.toNat
  obtain ⟨index, count⟩ : ∃ index, windows.size.toNat / windows.advance.toNat = index + 1 :=
    Nat.exists_eq_add_one.mpr (Nat.div_pos overlap positive)
  rw [count, Nat.succ_mul] at within
  rw [count]
  exact exists_length_windowsFor advanced (by omega)

theorem length_windowsFor_settled (advanced : windows.advance ≠ 0)
    (overlap : windows.advance.toNat ≤ windows.size.toNat) {timestamp : UInt64}
    (late : windows.size.toNat - 1 ≤ timestamp.toNat)
    (early : timestamp.toNat < Word.largest) :
    (windows.windowsFor timestamp).length = windows.size.toNat / windows.advance.toNat ∨
      (windows.windowsFor timestamp).length = windows.size.toNat ⌈/⌉ windows.advance.toNat := by
  have positive := advance_positive advanced
  have sized : windows.size ≠ 0 := size_ne_zero_of_pos (by omega)
  have most := length_windowsFor_le advanced timestamp
  have fewest := le_startedBy advanced overlap late
  have close : windows.size.toNat ⌈/⌉ windows.advance.toNat ≤
      windows.size.toNat / windows.advance.toNat + 1 := by
    rw [ceilDiv_le_iff_le_mul positive]
    exact Nat.le_of_lt (Nat.lt_mul_div_succ _ positive)
  rw [length_windowsFor sized advanced early] at most ⊢
  omega

theorem ceilDiv_eq_div (advanced : windows.advance ≠ 0)
    (even : windows.advance.toNat ∣ windows.size.toNat) :
    windows.size.toNat ⌈/⌉ windows.advance.toNat =
      windows.size.toNat / windows.advance.toNat := by
  have positive := advance_positive advanced
  apply Nat.le_antisymm
  · rw [ceilDiv_le_iff_le_mul positive, Nat.mul_div_cancel' even]
  · rw [← Nat.floorDiv_eq_div]
    exact floorDiv_le_ceilDiv

theorem toNat_maxWindowsPerRecord (advanced : windows.advance ≠ 0) :
    windows.maxWindowsPerRecord.toNat = windows.size.toNat ⌈/⌉ windows.advance.toNat := by
  unfold maxWindowsPerRecord
  rw [if_neg advanced, Word.toNat_stepsToCover (advance_positive advanced)]

/-- The greatest number of windows for a record is attained at some timestamp and passed at none.
Once the first window has come to its last timestamp, a record falls into one of two numbers of
windows, which are the same when the advance divides the size; before that, each window that has
started counts. -/
theorem maxWindowsPerRecord_exact (windows : TimeWindows) :
    (∀ timestamp : UInt64,
      (windows.windowsFor timestamp).length ≤ windows.maxWindowsPerRecord.toNat) ∧
    (∃ timestamp : UInt64,
      (windows.windowsFor timestamp).length = windows.maxWindowsPerRecord.toNat) ∧
    (windows.advance ≠ 0 → ∀ timestamp : UInt64, timestamp.toNat < Word.largest →
      (windows.advance.toNat ≤ windows.size.toNat → windows.size.toNat - 1 ≤ timestamp.toNat →
        ((windows.windowsFor timestamp).length = windows.size.toNat / windows.advance.toNat ∨
          (windows.windowsFor timestamp).length =
            windows.size.toNat ⌈/⌉ windows.advance.toNat) ∧
        (windows.advance.toNat ∣ windows.size.toNat → (windows.windowsFor timestamp).length =
          windows.size.toNat / windows.advance.toNat)) ∧
      (timestamp.toNat < windows.size.toNat → (windows.windowsFor timestamp).length =
        timestamp.toNat / windows.advance.toNat + 1)) := by
  by_cases advanced : windows.advance = 0
  · have none (timestamp : UInt64) := windowsFor_of_zero (.inr advanced) timestamp
    have most : windows.maxWindowsPerRecord.toNat = 0 := by
      rw [maxWindowsPerRecord, if_pos advanced, UInt64.toNat_zero]
    simp [none, most, advanced]
  · rw [toNat_maxWindowsPerRecord advanced]
    obtain ⟨attained, _, length⟩ := exists_most_windows advanced
    refine ⟨length_windowsFor_le advanced, ⟨attained, length⟩, ?_⟩
    intro _ timestamp early
    refine ⟨?_, length_windowsFor_early advanced early⟩
    intro overlap late
    have settled := length_windowsFor_settled advanced overlap late early
    refine ⟨settled, ?_⟩
    intro even
    rwa [ceilDiv_eq_div advanced even, or_self] at settled

end TimeWindows

end StreamWindow
