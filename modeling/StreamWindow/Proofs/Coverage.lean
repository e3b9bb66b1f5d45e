import StreamWindow.Proofs.Planning
import StreamWindow.Proofs.Validity
import StreamWindow.Proofs.WindowGrid

/-!
Which timestamps the windows of a valid clause cover: all but the largest. No window ends after
that one, and the end of a window is not in it.
-/

namespace StreamWindow

theorem WindowBounds.lt_largest {bounds : WindowBounds} {timestamp : UInt64}
    (inside : bounds.contains timestamp = true) : timestamp.toNat < Word.largest := by
  have ends := Word.toNat_le_largest bounds.finish
  rw [contains_iff] at inside
  omega

namespace TimeWindows

def latest (windows : TimeWindows) (timestamp : UInt64) : WindowBounds :=
  windows.bounds (timestamp.toNat / windows.advance.toNat)

theorem latest_contains {windows : TimeWindows} {timestamp : UInt64}
    (advanced : windows.advance ≠ 0) (overlap : windows.advance.toNat ≤ windows.size.toNat)
    (early : timestamp.toNat < Word.largest) :
    (windows.latest timestamp).contains timestamp = true := by
  have positive := advance_positive advanced
  have lower := Nat.div_mul_le_self timestamp.toNat windows.advance.toNat
  have upper := Nat.lt_div_mul_add (a := timestamp.toNat) positive
  simp only [latest, WindowBounds.contains_iff, TimeWindows.bounds, Word.toNat_clamp]
  omega

theorem latest_mem_windowsFor {windows : TimeWindows} {timestamp : UInt64}
    (sized : windows.size ≠ 0) (advanced : windows.advance ≠ 0)
    (overlap : windows.advance.toNat ≤ windows.size.toNat)
    (early : timestamp.toNat < Word.largest) :
    windows.latest timestamp ∈ windows.windowsFor timestamp := by
  have inside := latest_contains advanced overlap early
  have lower := Nat.div_mul_le_self timestamp.toNat windows.advance.toNat
  rw [mem_windowsFor_iff sized advanced, onGrid_iff]
  exact ⟨⟨_, by omega, rfl⟩, inside⟩

theorem windowsFor_largest {windows : TimeWindows} {timestamp : UInt64}
    (late : Word.largest ≤ timestamp.toNat) : windows.windowsFor timestamp = [] := by
  by_cases zero : windows.size = 0 ∨ windows.advance = 0
  · exact windowsFor_of_zero zero timestamp
  · obtain ⟨sized, advanced⟩ := not_or.mp zero
    rw [List.eq_nil_iff_forall_not_mem]
    intro bounds member
    obtain ⟨_, inside⟩ := (mem_windowsFor_iff sized advanced).mp member
    have early := WindowBounds.lt_largest inside
    omega

theorem eq_latest_of_tumbling {windows : TimeWindows} (tumbling : windows.size = windows.advance)
    (advanced : windows.advance ≠ 0) {bounds : WindowBounds} {timestamp : UInt64}
    (grid : windows.OnGrid bounds) (inside : bounds.contains timestamp = true) :
    bounds = windows.latest timestamp := by
  have positive := advance_positive advanced
  obtain ⟨index, _, rfl⟩ := onGrid_iff.mp grid
  simp only [WindowBounds.contains_iff, TimeWindows.bounds, Word.toNat_clamp, tumbling] at inside
  have lower := Nat.div_mul_le_self timestamp.toNat windows.advance.toNat
  have reached : index ≤ timestamp.toNat / windows.advance.toNat := by
    rw [Nat.le_div_iff_mul_le positive]
    omega
  have passed : timestamp.toNat / windows.advance.toNat < index + 1 := by
    rw [Nat.div_lt_iff_lt_mul positive, Nat.succ_mul]
    omega
  have same : index = timestamp.toNat / windows.advance.toNat := by omega
  rw [same]
  rfl

theorem windowsFor_tumbling {windows : TimeWindows} (tumbling : windows.size = windows.advance)
    (advanced : windows.advance ≠ 0) {timestamp : UInt64}
    (early : timestamp.toNat < Word.largest) :
    windows.windowsFor timestamp = [windows.latest timestamp] := by
  have sized : windows.size ≠ 0 := tumbling ▸ advanced
  have overlap : windows.advance.toNat ≤ windows.size.toNat :=
    Nat.le_of_eq (congrArg UInt64.toNat tumbling.symm)
  apply List.perm_singleton.mp
  rw [List.perm_ext_iff_of_nodup (windowsFor_nodup windows timestamp) (by simp)]
  intro bounds
  rw [List.mem_singleton]
  constructor
  · intro member
    obtain ⟨grid, inside⟩ := (mem_windowsFor_iff sized advanced).mp member
    exact eq_latest_of_tumbling tumbling advanced grid inside
  · rintro rfl
    exact latest_mem_windowsFor sized advanced overlap early

theorem windowsFor_ne_nil_iff {windows : TimeWindows} (sized : windows.size ≠ 0)
    (advanced : windows.advance ≠ 0) (overlap : windows.advance.toNat ≤ windows.size.toNat)
    {timestamp : UInt64} :
    windows.windowsFor timestamp ≠ [] ↔ timestamp.toNat < Word.largest := by
  constructor
  · intro found
    apply Nat.lt_of_not_le
    intro late
    exact found (windowsFor_largest late)
  · intro early
    exact List.ne_nil_of_mem (latest_mem_windowsFor sized advanced overlap early)

theorem length_windowsFor_tumbling_iff {windows : TimeWindows}
    (tumbling : windows.size = windows.advance) (advanced : windows.advance ≠ 0)
    {timestamp : UInt64} :
    (windows.windowsFor timestamp).length = 1 ↔ timestamp.toNat < Word.largest := by
  constructor
  · intro one
    apply Nat.lt_of_not_le
    intro late
    rw [windowsFor_largest late] at one
    contradiction
  · intro early
    rw [windowsFor_tumbling tumbling advanced early]
    rfl

end TimeWindows

theorem time_of_validate {window : Window} (valid : window.validate = .ok ())
    (timed : window.kind ≠ .session) :
    ∃ windows, window.lower = .ok (.time windows) ∧ windows.advance ≠ 0 ∧
      windows.advance.toNat ≤ windows.size.toNat := by
  cases window with
  | tumbling size =>
      obtain ⟨sizeMillis, sized, positive⟩ := validate_tumbling_iff.mp valid
      refine ⟨_, lower_tumbling_iff.mpr ⟨_, Duration.millis_eq_ok_iff.mpr sized, rfl⟩, ?_, ?_⟩
      · exact Duration.ne_zero_of_positive sized positive
      · exact Nat.le_refl _
  | hopping size advance =>
      obtain ⟨sizeMillis, advanceMillis, sized, advanced, _, positive, ordered⟩ :=
        validate_hopping_iff.mp valid
      refine ⟨_, lower_hopping_iff.mpr ⟨_, Duration.millis_eq_ok_iff.mpr sized, _,
        Duration.millis_eq_ok_iff.mpr advanced, rfl⟩, ?_, ?_⟩
      · exact Duration.ne_zero_of_positive advanced positive
      · rwa [sized, advanced] at ordered
  | session gap => exact absurd rfl timed

/-- The windows of a valid tumbling or hopping clause cover every timestamp but the largest, and
windows that do not overlap cover it once. The largest timestamp is in none of them. -/
theorem windowsFor_covers {window : Window} (valid : window.validate = .ok ())
    (timed : window.kind ≠ .session) :
    ∃ windows, window.lower = .ok (.time windows) ∧ ∀ timestamp : UInt64,
      (windows.windowsFor timestamp ≠ [] ↔ timestamp.toNat < Word.largest) ∧
      (windows.isTumbling = true →
        ((windows.windowsFor timestamp).length = 1 ↔ timestamp.toNat < Word.largest)) := by
  obtain ⟨windows, lowered, advanced, overlap⟩ := time_of_validate valid timed
  refine ⟨windows, lowered, fun timestamp => ⟨?_, ?_⟩⟩
  · have sized : windows.size ≠ 0 := by
      intro zero
      have positive := TimeWindows.advance_positive advanced
      rw [zero] at overlap
      exact absurd overlap (Nat.not_le_of_gt positive)
    exact TimeWindows.windowsFor_ne_nil_iff sized advanced overlap
  · intro tumbling
    exact TimeWindows.length_windowsFor_tumbling_iff (beq_iff_eq.mp tumbling) advanced

theorem windowsFor_covers_hopping :
    (Window.hopping ⟨5, .seconds⟩ ⟨2, .seconds⟩).validate = .ok () ∧
      ∃ windows, (Window.hopping ⟨5, .seconds⟩ ⟨2, .seconds⟩).lower = .ok (.time windows) ∧
        windows.windowsFor 18446744073709551614 ≠ [] ∧
        ¬ windows.windowsFor 18446744073709551615 ≠ [] := by
  have valid : (Window.hopping ⟨5, .seconds⟩ ⟨2, .seconds⟩).validate = .ok () :=
    validate_hopping_iff.mpr
      ⟨5000, 2000, by decide, by decide, by decide, by decide, by decide⟩
  obtain ⟨windows, lowered, covers⟩ := windowsFor_covers valid (by decide)
  refine ⟨valid, windows, lowered, ?_, ?_⟩
  · exact (covers 18446744073709551614).1.mpr (by decide)
  · rw [(covers 18446744073709551615).1]
    decide

/-- The windows of this valid clause leave out a record at the largest timestamp. -/
theorem largest_timestamp_uncovered :
    (Window.tumbling ⟨10, .milliseconds⟩).validate = .ok () ∧
      (Window.tumbling ⟨10, .milliseconds⟩).lower = .ok (.time (TimeWindows.tumbling 10)) ∧
      (TimeWindows.tumbling 10).windowsFor 18446744073709551615 = [] :=
  ⟨validate_tumbling_iff.mpr ⟨10, by decide, by decide⟩, rfl,
    TimeWindows.windowsFor_largest (by decide)⟩

end StreamWindow
