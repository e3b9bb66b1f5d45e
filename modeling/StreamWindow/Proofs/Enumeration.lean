import Mathlib.Data.List.Sort
import StreamWindow.Proofs.Coverage

/-!
Enumerating the grid from the epoch on. The windows of a timestamp are those of the enumeration
that contain it, in the same order, so a search that starts late misses none.
-/

namespace StreamWindow.TimeWindows

def grid (windows : TimeWindows) : List WindowBounds :=
  (List.range (Word.largest / windows.advance.toNat + 1)).map windows.bounds

theorem mem_grid_iff {windows : TimeWindows} (advanced : windows.advance ≠ 0)
    {bounds : WindowBounds} : bounds ∈ windows.grid ↔ windows.OnGrid bounds := by
  have positive := advance_positive advanced
  rw [onGrid_iff]
  unfold grid
  simp only [List.mem_map, List.mem_range, Nat.lt_succ_iff, Nat.le_div_iff_mul_le positive]

theorem grid_ascending {windows : TimeWindows} (advanced : windows.advance ≠ 0) :
    windows.grid.Pairwise (·.start.toNat < ·.start.toNat) := by
  have positive := advance_positive advanced
  unfold grid
  rw [List.pairwise_map]
  apply List.Pairwise.imp_of_mem _ List.pairwise_lt_range
  intro earlier later _ member ordered
  have reached : later ≤ Word.largest / windows.advance.toNat :=
    Nat.lt_succ_iff.mp (List.mem_range.mp member)
  rw [Nat.le_div_iff_mul_le positive] at reached
  exact bounds_start_lt advanced ordered reached

theorem eq_of_ascending {found other : List WindowBounds}
    (ascending : found.Pairwise (·.start.toNat < ·.start.toNat))
    (otherAscending : other.Pairwise (·.start.toNat < ·.start.toNat))
    (same : ∀ bounds, bounds ∈ found ↔ bounds ∈ other) : found = other := by
  have unequal (earlier later : WindowBounds) (ordered : earlier.start.toNat < later.start.toNat) :
      earlier ≠ later := by
    rintro rfl
    omega
  have shuffled : found.Perm other :=
    (List.perm_ext_iff_of_nodup (ascending.imp (unequal _ _))
      (otherAscending.imp (unequal _ _))).mpr same
  -- Two windows cannot each start before the other, so the order leaves no choice.
  apply shuffled.eq_of_pairwise _ ascending otherAscending
  intro first second _ _ before after
  omega

theorem windowsFor_eq_filter_grid {windows : TimeWindows} (sized : windows.size ≠ 0)
    (advanced : windows.advance ≠ 0) (timestamp : UInt64) :
    windows.windowsFor timestamp = windows.grid.filter (·.contains timestamp) := by
  apply eq_of_ascending (windowsFor_ascending windows timestamp)
    ((grid_ascending advanced).filter _)
  intro bounds
  rw [List.mem_filter, mem_windowsFor_iff sized advanced, mem_grid_iff advanced]

theorem contains_bounds_iff {windows : TimeWindows} {index : Nat} {timestamp : UInt64}
    (early : timestamp.toNat < Word.largest) :
    (windows.bounds index).contains timestamp = true ↔
      index * windows.advance.toNat ≤ timestamp.toNat ∧
        timestamp.toNat < index * windows.advance.toNat + windows.size.toNat := by
  simp only [WindowBounds.contains_iff, TimeWindows.bounds, Word.toNat_clamp]
  omega

theorem bounds_mem_windowsFor_iff {windows : TimeWindows} (sized : windows.size ≠ 0)
    (advanced : windows.advance ≠ 0) {timestamp : UInt64}
    (early : timestamp.toNat < Word.largest) {index : Nat} :
    windows.bounds index ∈ windows.windowsFor timestamp ↔
      index * windows.advance.toNat ≤ timestamp.toNat ∧
        timestamp.toNat < index * windows.advance.toNat + windows.size.toNat := by
  rw [mem_windowsFor_iff sized advanced, contains_bounds_iff early, onGrid_iff]
  constructor
  · rintro ⟨_, inside⟩
    exact inside
  · rintro ⟨started, running⟩
    exact ⟨⟨index, by omega, rfl⟩, started, running⟩

/-- The windows of a timestamp are what an enumeration of the grid from the epoch finds: all the
windows that contain it, in the order of their starts and each once. Below the largest timestamp
these are the windows that have started and not ended by then, in unbounded numbers. Without a
size or an advance there are none. -/
theorem windowsFor_enumerates (windows : TimeWindows) (timestamp : UInt64) :
    (windows.size ≠ 0 → windows.advance ≠ 0 →
      windows.windowsFor timestamp = windows.grid.filter (·.contains timestamp) ∧
      (windows.windowsFor timestamp).Pairwise (·.start.toNat < ·.start.toNat) ∧
      (windows.windowsFor timestamp).Nodup ∧
      (∀ bounds : WindowBounds, bounds ∈ windows.windowsFor timestamp ↔
        windows.OnGrid bounds ∧ bounds.contains timestamp = true) ∧
      (timestamp.toNat < Word.largest → ∀ index,
        windows.bounds index ∈ windows.windowsFor timestamp ↔
          index * windows.advance.toNat ≤ timestamp.toNat ∧
            timestamp.toNat < index * windows.advance.toNat + windows.size.toNat)) ∧
    (windows.size = 0 ∨ windows.advance = 0 → windows.windowsFor timestamp = []) := by
  refine ⟨?_, fun zero => windowsFor_of_zero zero timestamp⟩
  intro sized advanced
  refine ⟨windowsFor_eq_filter_grid sized advanced timestamp,
    windowsFor_ascending windows timestamp, windowsFor_nodup windows timestamp, ?_, ?_⟩
  · intro bounds
    exact mem_windowsFor_iff sized advanced
  · intro early index
    exact bounds_mem_windowsFor_iff sized advanced early

/-- Windows that advance further than their size leave gaps. -/
example : (((TimeWindows.tumbling 2).advanceBy 5).windowsFor 6).map WindowBounds.text =
      ["[5, 7)"] ∧
    ((TimeWindows.tumbling 2).advanceBy 5).windowsFor 8 = [] := by cbv

end StreamWindow.TimeWindows
