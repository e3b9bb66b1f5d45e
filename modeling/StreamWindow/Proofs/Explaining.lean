import StreamWindow.Explanation
import StreamWindow.Proofs.Overlap

/-!
Explanations and lowering. Both fail over the same duration, and a valid clause is explained by
the measurements of the windows that it lowers to.
-/

namespace StreamWindow

def Descriptor.measurements : Descriptor → Measurements
  | time windows => .time windows.size windows.advance (some windows.maxWindowsPerRecord)
  | session windows => .session windows.gap

theorem measure_fails_with_lower (window : Window) :
    (fun _ => ()) <$> window.measure = (fun _ => ()) <$> window.lower := by
  cases window <;> simp only [Window.measure, Window.lower, map_bind, map_pure]

theorem explain_eq_ok_iff {clause : Clause} {explanation : Explanation} :
    clause.explain = .ok explanation ↔
      ∃ measurements, clause.window.measure = .ok measurements ∧
        explanation = ⟨clause, measurements⟩ := by
  simp only [Clause.explain, bind_eq_ok_iff, pure, Except.pure, Except.ok.injEq,
    @eq_comm _ explanation]

theorem explain_iff_lower (clause : Clause) :
    (∃ explanation, clause.explain = .ok explanation) ↔
      ∃ descriptor, clause.window.lower = .ok descriptor := by
  have measured : (fun _ => ()) <$> clause.explain = (fun _ => ()) <$> clause.window.measure := by
    simp only [Clause.explain, bind_pure_comp, Functor.map_map]
  rw [exists_ok_iff, exists_ok_iff, measured, measure_fails_with_lower]

theorem maxWindowsPerRecord_tumbling {size : UInt64} (sized : size ≠ 0) :
    (TimeWindows.tumbling size).maxWindowsPerRecord = 1 := by
  have positive : 0 < (TimeWindows.tumbling size).advance.toNat :=
    TimeWindows.advance_positive sized
  rw [← UInt64.toNat_inj, TimeWindows.toNat_maxWindowsPerRecord sized,
    TimeWindows.ceilDiv_eq_div sized (Nat.dvd_refl _)]
  exact Nat.div_self positive

theorem measure_of_validate {window : Window} (valid : window.validate = .ok ()) :
    ∃ descriptor, window.lower = .ok descriptor ∧
      window.measure = .ok descriptor.measurements := by
  cases window with
  | tumbling size =>
      obtain ⟨windows, lowered, advanced, _⟩ := time_of_validate valid (by simp [Window.kind])
      obtain ⟨sizeMillis, sized, same⟩ := lower_tumbling_iff.mp lowered
      obtain rfl : windows = TimeWindows.tumbling sizeMillis := Descriptor.time.inj same
      have nonzero : sizeMillis ≠ 0 := advanced
      refine ⟨_, lowered, ?_⟩
      rw [Window.measure, sized, Descriptor.measurements, maxWindowsPerRecord_tumbling nonzero]
      rfl
  | hopping size advance =>
      obtain ⟨windows, lowered, advanced, _⟩ := time_of_validate valid (by simp [Window.kind])
      obtain ⟨sizeMillis, sized, advanceMillis, counted, same⟩ := lower_hopping_iff.mp lowered
      obtain rfl : windows = ⟨sizeMillis, advanceMillis⟩ := Descriptor.time.inj same
      have nonzero : advanceMillis ≠ 0 := advanced
      have advances : 0 < advanceMillis := UInt64.pos_iff_ne_zero.mpr nonzero
      have measured : (Window.hopping size advance).measure =
          .ok (.time sizeMillis advanceMillis (if 0 < advanceMillis then
            some (Word.stepsToCover sizeMillis advanceMillis) else none)) := by
        rw [Window.measure, sized, counted]
        rfl
      refine ⟨_, lowered, ?_⟩
      rw [measured, if_pos advances, Descriptor.measurements, TimeWindows.maxWindowsPerRecord,
        if_neg nonzero]
  | session gap =>
      obtain ⟨descriptor, lowered⟩ := lower_of_validate valid
      obtain ⟨gapMillis, counted, rfl⟩ := lower_session_iff.mp lowered
      refine ⟨_, lowered, ?_⟩
      rw [Window.measure, counted]
      rfl

theorem explain_of_validate {clause : Clause} (valid : clause.window.validate = .ok ()) :
    ∃ descriptor, clause.window.lower = .ok descriptor ∧
      clause.explain = .ok ⟨clause, descriptor.measurements⟩ := by
  obtain ⟨descriptor, lowered, measured⟩ := measure_of_validate valid
  exact ⟨descriptor, lowered, explain_eq_ok_iff.mpr ⟨_, measured, rfl⟩⟩

end StreamWindow
