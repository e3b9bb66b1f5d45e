import StreamWindow.TimeWindows

/-!
The grid of time windows. A timestamp is assigned to exactly the windows of the grid that
contain it, each of them once.
-/

namespace StreamWindow.TimeWindows

def bounds (windows : TimeWindows) (index : Nat) : WindowBounds :=
  let start := index * windows.advance.toNat
  ⟨Word.clamp start, Word.clamp (start + windows.size.toNat)⟩

theorem starting_eq_bounds {windows : TimeWindows} {start : UInt64} {index : Nat}
    (aligned : start.toNat = index * windows.advance.toNat) :
    windows.starting start = windows.bounds index := by
  have same : Word.clamp (index * windows.advance.toNat) = start := by
    have fits := Word.toNat_le_largest start
    rw [← UInt64.toNat_inj, Word.toNat_clamp]
    omega
  rw [starting, bounds, same, aligned]

def startedFrom (windows : TimeWindows) (timestamp : UInt64) (index : Nat) : List WindowBounds :=
  (List.range' index (timestamp.toNat / windows.advance.toNat + 1 - index)).map windows.bounds

theorem windowsFrom_step {windows : TimeWindows} (advanced : windows.advance ≠ 0)
    (timestamp : UInt64) {start : UInt64} {index : Nat}
    (aligned : start.toNat = index * windows.advance.toNat) :
    let last := timestamp.toNat / windows.advance.toNat
    last < index ∧ windows.windowsFrom advanced timestamp start = [] ∨
      index ≤ last ∧ ∃ later, windows.windowsFrom advanced timestamp start =
        [windows.bounds index].filter (·.contains timestamp) ++ later ∧
        ((∃ next : UInt64, next.toNat = (index + 1) * windows.advance.toNat ∧
            later = windows.windowsFrom advanced timestamp next) ∨
          last = index ∧ later = []) := by
  intro last
  have positive := advance_positive advanced
  have reach (other : Nat) : other ≤ last ↔ other * windows.advance.toNat ≤ timestamp.toNat :=
    Nat.le_div_iff_mul_le positive
  have fits := Word.toNat_le_largest timestamp
  have reached := reach index
  have further := reach (index + 1)
  have stride : (index + 1) * windows.advance.toNat =
      index * windows.advance.toNat + windows.advance.toNat := Nat.succ_mul ..
  rw [windowsFrom]
  split
  · next within =>
      rw [UInt64.le_iff_toNat_le] at within
      refine .inr ⟨by omega, ?_⟩
      rw [starting_eq_bounds aligned]
      split
      · next next stepped =>
          rw [Word.sum?_eq_fit?, Word.fit?_eq_some_iff] at stepped
          exact ⟨_, rfl, .inl ⟨next, by omega, rfl⟩⟩
      · next stopped =>
          rw [Word.sum?_eq_fit?, Word.fit?_eq_none_iff] at stopped
          exact ⟨[], (List.append_nil _).symm, .inr ⟨by omega, rfl⟩⟩
  · next late =>
      rw [UInt64.le_iff_toNat_le] at late
      exact .inl ⟨by omega, rfl⟩

theorem windowsFrom_eq {windows : TimeWindows} (advanced : windows.advance ≠ 0)
    {timestamp start : UInt64} {index : Nat}
    (aligned : start.toNat = index * windows.advance.toNat) :
    windows.windowsFrom advanced timestamp start =
      (windows.startedFrom timestamp index).filter (·.contains timestamp) := by
  unfold startedFrom
  generalize count : timestamp.toNat / windows.advance.toNat + 1 - index = remaining
  induction remaining generalizing start index with
  | zero =>
      rcases windowsFrom_step advanced timestamp aligned with
        ⟨_, none⟩ | ⟨reached, _⟩
      · exact none
      · omega
  | succ remaining ih =>
      rcases windowsFrom_step advanced timestamp aligned with
        ⟨beyond, _⟩ | ⟨_, later, split, ⟨next, follows, rfl⟩ | ⟨final, rfl⟩⟩
      · omega
      · rw [split, ih follows (by omega), List.range'_succ, List.map_cons, ← List.filter_append]
        rfl
      · obtain rfl : remaining = 0 := by omega
        rw [split, List.append_nil]
        rfl

def firstIndex (windows : TimeWindows) (timestamp : UInt64) : Nat :=
  (min (timestamp.toNat + windows.advance.toNat) Word.largest - windows.size.toNat) /
    windows.advance.toNat

theorem windowsFor_of_zero {windows : TimeWindows}
    (zero : windows.size = 0 ∨ windows.advance = 0) (timestamp : UInt64) :
    windows.windowsFor timestamp = [] := by
  unfold windowsFor
  rw [dif_pos zero]

theorem windowsFor_eq {windows : TimeWindows} (sized : windows.size ≠ 0)
    (advanced : windows.advance ≠ 0) (timestamp : UInt64) :
    windows.windowsFor timestamp =
      (windows.startedFrom timestamp (windows.firstIndex timestamp)).filter
        (·.contains timestamp) := by
  have positive := advance_positive advanced
  unfold windowsFor
  rw [dif_neg (by simp [sized, advanced])]
  apply windowsFrom_eq advanced
  have bound := Nat.div_mul_le_self
    (min (timestamp.toNat + windows.advance.toNat) Word.largest - windows.size.toNat)
    windows.advance.toNat
  have largest : Word.largest + 1 = 2 ^ 64 := rfl
  rw [firstIndex, UInt64.toNat_mul, UInt64.toNat_div, Word.toNat_clamp, Word.toNat_clamp,
    Nat.min_eq_left (by omega : _ - _ ≤ Word.largest)]
  exact Nat.mod_eq_of_lt (by omega)

/-- The bounds of some window of the grid; an end that no word holds is cut off. -/
def OnGrid (windows : TimeWindows) (bounds : WindowBounds) : Prop :=
  ∃ index, bounds.start.toNat = index * windows.advance.toNat ∧
    bounds.finish.toNat = min (index * windows.advance.toNat + windows.size.toNat) Word.largest

theorem onGrid_iff {windows : TimeWindows} {bounds : WindowBounds} :
    windows.OnGrid bounds ↔
      ∃ index, index * windows.advance.toNat ≤ Word.largest ∧ windows.bounds index = bounds := by
  constructor
  · rintro ⟨index, start, finish⟩
    have fits := Word.toNat_le_largest bounds.start
    refine ⟨index, by omega, ?_⟩
    unfold TimeWindows.bounds
    have starts : Word.clamp (index * windows.advance.toNat) = bounds.start := by
      rw [← UInt64.toNat_inj, Word.toNat_clamp]
      omega
    have finishes : Word.clamp (index * windows.advance.toNat + windows.size.toNat) =
        bounds.finish := by
      rw [← UInt64.toNat_inj, Word.toNat_clamp]
      omega
    simp only [starts, finishes]
  · rintro ⟨index, fits, rfl⟩
    refine ⟨index, ?_, ?_⟩
    · simp only [TimeWindows.bounds, Word.toNat_clamp]
      omega
    · simp only [TimeWindows.bounds, Word.toNat_clamp]

theorem firstIndex_le {windows : TimeWindows} (advanced : windows.advance ≠ 0)
    {timestamp : UInt64} {index : Nat}
    (ends : timestamp.toNat < index * windows.advance.toNat + windows.size.toNat) :
    windows.firstIndex timestamp ≤ index := by
  have positive := advance_positive advanced
  rw [← Nat.lt_succ_iff, firstIndex, Nat.div_lt_iff_lt_mul positive, Nat.succ_mul]
  omega

theorem mem_startedFrom_iff {windows : TimeWindows} (advanced : windows.advance ≠ 0)
    {timestamp : UInt64} {first : Nat} {bounds : WindowBounds} :
    bounds ∈ windows.startedFrom timestamp first ↔
      ∃ index, first ≤ index ∧ index * windows.advance.toNat ≤ timestamp.toNat ∧
        windows.bounds index = bounds := by
  simp only [startedFrom, List.mem_map, List.mem_range'_1,
    ← Nat.le_div_iff_mul_le (advance_positive advanced)]
  constructor
  · rintro ⟨index, within, same⟩
    exact ⟨index, by omega, by omega, same⟩
  · rintro ⟨index, lower, upper, same⟩
    exact ⟨index, by omega, same⟩

theorem mem_windowsFor_iff {windows : TimeWindows} (sized : windows.size ≠ 0)
    (advanced : windows.advance ≠ 0) {timestamp : UInt64} {bounds : WindowBounds} :
    bounds ∈ windows.windowsFor timestamp ↔
      windows.OnGrid bounds ∧ bounds.contains timestamp = true := by
  have fits := Word.toNat_le_largest timestamp
  rw [windowsFor_eq sized advanced, List.mem_filter, mem_startedFrom_iff advanced, onGrid_iff]
  constructor
  · rintro ⟨⟨index, _, started, rfl⟩, inside⟩
    exact ⟨⟨index, by omega, rfl⟩, inside⟩
  · rintro ⟨⟨index, small, rfl⟩, inside⟩
    refine ⟨⟨index, ?_, ?_, rfl⟩, inside⟩
    all_goals simp only [WindowBounds.contains_iff, TimeWindows.bounds, Word.toNat_clamp] at inside
    · exact firstIndex_le advanced (by omega)
    · omega

theorem bounds_start_lt {windows : TimeWindows} (advanced : windows.advance ≠ 0)
    {earlier later : Nat} (ordered : earlier < later)
    (fits : later * windows.advance.toNat ≤ Word.largest) :
    (windows.bounds earlier).start.toNat < (windows.bounds later).start.toNat := by
  have apart := Nat.mul_lt_mul_of_pos_right ordered (advance_positive advanced)
  simp only [TimeWindows.bounds, Word.toNat_clamp]
  omega

theorem windowsFor_ascending (windows : TimeWindows) (timestamp : UInt64) :
    (windows.windowsFor timestamp).Pairwise (·.start.toNat < ·.start.toNat) := by
  by_cases zero : windows.size = 0 ∨ windows.advance = 0
  · rw [windowsFor_of_zero zero]
    exact List.Pairwise.nil
  · obtain ⟨sized, advanced⟩ := not_or.mp zero
    have fits := Word.toNat_le_largest timestamp
    rw [windowsFor_eq sized advanced, startedFrom]
    apply List.Pairwise.filter
    rw [List.pairwise_map]
    apply List.Pairwise.imp_of_mem _ List.pairwise_lt_range'
    intro earlier later _ member ordered
    rw [List.mem_range'_1] at member
    have reached : later ≤ timestamp.toNat / windows.advance.toNat := by omega
    rw [Nat.le_div_iff_mul_le (advance_positive advanced)] at reached
    exact bounds_start_lt advanced ordered (by omega)

theorem windowsFor_nodup (windows : TimeWindows) (timestamp : UInt64) :
    (windows.windowsFor timestamp).Nodup := by
  apply List.Pairwise.imp _ (windowsFor_ascending windows timestamp)
  rintro earlier _ ordered rfl
  omega

end StreamWindow.TimeWindows
