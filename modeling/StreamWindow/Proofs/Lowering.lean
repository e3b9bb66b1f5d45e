import StreamWindow.Proofs.Planning
import StreamWindow.Proofs.Validity

/-!
Lowering. A descriptor holds the exact lengths of its window, so two windows with one descriptor
are alike, or one of them is tumbling and the other hops by its size.
-/

namespace StreamWindow

/-- The fields of the descriptor are the exact lengths of the window. Tumbling windows advance by
their size. -/
inductive Window.DescribedBy : Window → Descriptor → Prop
  | tumbling {size : Duration} {windows : TimeWindows}
      (sized : size.exactMillis = windows.size.toNat) (tiles : windows.advance = windows.size) :
      DescribedBy (.tumbling size) (.time windows)
  | hopping {size advance : Duration} {windows : TimeWindows}
      (sized : size.exactMillis = windows.size.toNat)
      (advanced : advance.exactMillis = windows.advance.toNat) :
      DescribedBy (.hopping size advance) (.time windows)
  | session {gap : Duration} {windows : SessionWindows}
      (spaced : gap.exactMillis = windows.gap.toNat) :
      DescribedBy (.session gap) (.session windows)

inductive Window.FirstOverflow (window : Window) : Duration → Prop
  | extent (long : Word.largest < window.extent.2.exactMillis) :
      FirstOverflow window window.extent.2
  | advance {advance : Duration} (extentFits : window.extent.2.exactMillis ≤ Word.largest)
      (advances : window.duration? .advance = some advance)
      (long : Word.largest < advance.exactMillis) : FirstOverflow window advance

def Window.HopsBySize : Window → Window → Prop
  | tumbling size, hopping otherSize advance =>
      size.exactMillis = otherSize.exactMillis ∧ size.exactMillis = advance.exactMillis
  | _, _ => False

theorem lower_ok_iff_describedBy {window : Window} {descriptor : Descriptor} :
    window.lower = .ok descriptor ↔ window.DescribedBy descriptor := by
  cases window with
  | tumbling size =>
      rw [lower_tumbling_iff]
      constructor
      · rintro ⟨sizeMillis, sized, rfl⟩
        exact .tumbling (Duration.millis_eq_ok_iff.mp sized) rfl
      · intro described
        cases described with
        | @tumbling size windows sized tiles =>
            obtain ⟨sizeMillis, advanceMillis⟩ := windows
            obtain rfl : advanceMillis = sizeMillis := tiles
            exact ⟨_, Duration.millis_eq_ok_iff.mpr sized, rfl⟩
  | hopping size advance =>
      rw [lower_hopping_iff]
      constructor
      · rintro ⟨sizeMillis, sized, advanceMillis, advanced, rfl⟩
        exact .hopping (Duration.millis_eq_ok_iff.mp sized) (Duration.millis_eq_ok_iff.mp advanced)
      · intro described
        cases described with
        | hopping sized advanced =>
            exact ⟨_, Duration.millis_eq_ok_iff.mpr sized, _,
              Duration.millis_eq_ok_iff.mpr advanced, rfl⟩
  | session gap =>
      rw [lower_session_iff]
      constructor
      · rintro ⟨gapMillis, spaced, rfl⟩
        exact .session (Duration.millis_eq_ok_iff.mp spaced)
      · intro described
        cases described with
        | session spaced => exact ⟨_, Duration.millis_eq_ok_iff.mpr spaced, rfl⟩

theorem exists_describedBy_iff {window : Window} :
    (∃ descriptor, window.DescribedBy descriptor) ↔
      window.Every (·.exactMillis ≤ Word.largest) := by
  constructor
  · rintro ⟨descriptor, described⟩
    cases described with
    | tumbling sized tiles => exact (every_still_iff rfl).mpr (Duration.fits_iff.mp ⟨_, sized⟩)
    | hopping sized advanced =>
        exact every_hopping_iff.mpr
          ⟨Duration.fits_iff.mp ⟨_, sized⟩, Duration.fits_iff.mp ⟨_, advanced⟩⟩
    | session spaced => exact (every_still_iff rfl).mpr (Duration.fits_iff.mp ⟨_, spaced⟩)
  · intro fits
    obtain ⟨millis, extent⟩ := Duration.fits_iff.mpr fits.extent
    cases window with
    | tumbling size => exact ⟨.time ⟨millis, millis⟩, .tumbling extent rfl⟩
    | hopping size advance =>
        obtain ⟨advanceMillis, advanced⟩ := Duration.fits_iff.mpr (every_hopping_iff.mp fits).2
        exact ⟨.time ⟨millis, advanceMillis⟩, .hopping extent advanced⟩
    | session gap => exact ⟨.session ⟨millis⟩, .session extent⟩

theorem lower_still_error_iff {window : Window} (still : window.duration? .advance = none)
    {cause : Violation} :
    window.lower = .error cause ↔ window.extent.2.millis = .error cause := by
  cases window with
  | tumbling size => simp [Window.lower, bind_eq_error_iff, pure, Except.pure, Window.extent]
  | hopping size advance => contradiction
  | session gap => simp [Window.lower, bind_eq_error_iff, pure, Except.pure, Window.extent]

theorem lower_hopping_error_iff {size advance : Duration} {cause : Violation} :
    (Window.hopping size advance).lower = .error cause ↔
      size.millis = .error cause ∨
        (∃ sizeMillis, size.millis = .ok sizeMillis) ∧ advance.millis = .error cause := by
  simp [Window.lower, bind_eq_error_iff, pure, Except.pure]

theorem lower_error_iff_firstOverflow {window : Window} {cause : Violation} :
    window.lower = .error cause ↔
      ∃ duration, window.FirstOverflow duration ∧ cause = .overflow duration := by
  cases advances : window.duration? .advance with
  | none =>
      rw [lower_still_error_iff advances, Duration.millis_eq_error_iff]
      constructor
      · rintro ⟨long, rfl⟩
        exact ⟨_, .extent long, rfl⟩
      · rintro ⟨duration, first, rfl⟩
        cases first with
        | extent long => exact ⟨long, rfl⟩
        | advance extentFits has long => simp [advances] at has
  | some advance =>
      obtain ⟨size, rfl⟩ := hopping_of_advance advances
      simp only [lower_hopping_error_iff, Duration.millis_eq_error_iff, Duration.millis_eq_ok_iff,
        Duration.fits_iff]
      constructor
      · rintro (⟨long, rfl⟩ | ⟨sizeFits, long, rfl⟩)
        · exact ⟨_, .extent long, rfl⟩
        · exact ⟨_, .advance sizeFits advances long, rfl⟩
      · rintro ⟨duration, first, rfl⟩
        cases first with
        | extent long => exact .inl ⟨long, rfl⟩
        | advance sizeFits has long =>
            obtain rfl := Option.some.inj has
            exact .inr ⟨sizeFits, long, rfl⟩

/-! What a descriptor tells of its window. -/

def Window.asHopping : Window → Window
  | tumbling size => hopping size size
  | other => other

def Descriptor.lengths : Descriptor → Window.Kind × List Nat
  | time windows => (.hopping, [windows.size.toNat, windows.advance.toNat])
  | session windows => (.session, [windows.gap.toNat])

theorem descriptor_lengths_inj {left right : Descriptor} :
    left.lengths = right.lengths ↔ left = right := by
  cases left with
  | time windows =>
      cases right with
      | time others =>
          obtain ⟨size, advance⟩ := windows
          obtain ⟨otherSize, otherAdvance⟩ := others
          simp [Descriptor.lengths, UInt64.toNat_inj]
      | session others => simp [Descriptor.lengths]
  | session windows =>
      cases right with
      | time others => simp [Descriptor.lengths]
      | session others =>
          obtain ⟨gap⟩ := windows
          obtain ⟨otherGap⟩ := others
          simp [Descriptor.lengths, UInt64.toNat_inj]

theorem lengths_of_describedBy {window : Window} {descriptor : Descriptor}
    (described : window.DescribedBy descriptor) :
    descriptor.lengths = window.asHopping.lengths := by
  cases described with
  | tumbling sized tiles =>
      simp [Descriptor.lengths, Window.asHopping, Window.lengths, sized, tiles]
  | hopping sized advanced =>
      simp [Descriptor.lengths, Window.asHopping, Window.lengths, sized, advanced]
  | session spaced => simp [Descriptor.lengths, Window.asHopping, Window.lengths, spaced]

theorem asHopping_lengths_iff {first second : Window} :
    first.asHopping.lengths = second.asHopping.lengths ↔
      first.lengths = second.lengths ∨ first.HopsBySize second ∨ second.HopsBySize first := by
  cases first <;> cases second <;>
    simp [Window.asHopping, Window.lengths, Window.HopsBySize, eq_comm]

theorem descriptor_eq_iff {first second : Window} {left right : Descriptor}
    (lowered : first.lower = .ok left) (otherLowered : second.lower = .ok right) :
    left = right ↔
      (first == second) = true ∨ first.HopsBySize second ∨ second.HopsBySize first := by
  rw [← descriptor_lengths_inj, lengths_of_describedBy (lower_ok_iff_describedBy.mp lowered),
    lengths_of_describedBy (lower_ok_iff_describedBy.mp otherLowered), asHopping_lengths_iff,
    Window.beq_iff]

/-! Building operators. -/

section

variable {value aggregate : Type} {window : Window} {stream : GroupedStream}
  {initial : aggregate} {fold : String → value → aggregate → aggregate} {store : Store}

theorem built_invariant_iff {cause : Violation} :
    (Aggregation.lower window stream initial fold store).outcome = .error (.invariant cause) ↔
      window.lower = .error cause := by
  rw [lower_outcome]
  unfold Aggregation.build
  cases lowered : window.lower with
  | error other => simp
  | ok descriptor =>
      cases found : store.mismatch? stream descriptor with
      | some mismatch => simp [found]
      | none => simp [found]

theorem records_of_unbuilt {error : LoweringError}
    (unbuilt : (Aggregation.lower window stream initial fold store).outcome = .error error) :
    (Aggregation.lower window stream initial fold store).records = [] := by
  rw [lower_outcome] at unbuilt
  unfold Aggregation.lower
  rw [unbuilt]

end

/-- Lowering succeeds on the windows whose lengths are all in range and fails on any other for the
first length that is not. What it gives are the exact lengths. Two windows have one descriptor when
they are alike or one of them is tumbling and the other hops by that same size. An operator is not
built for a window that overflows, whatever the store is like, and what is not built is not
logged. -/
theorem lower_exact :
    (∀ window : Window,
      ((∃ descriptor, window.lower = .ok descriptor) ↔
        window.Every (·.exactMillis ≤ Word.largest)) ∧
      (∀ descriptor, window.lower = .ok descriptor ↔ window.DescribedBy descriptor) ∧
      ∀ cause, window.lower = .error cause ↔
        ∃ duration, window.FirstOverflow duration ∧ cause = .overflow duration) ∧
    (∀ (first second : Window) (left right : Descriptor),
      first.lower = .ok left → second.lower = .ok right →
        (left = right ↔
          (first == second) = true ∨ first.HopsBySize second ∨ second.HopsBySize first)) ∧
    ∀ (value aggregate : Type) (window : Window) (stream : GroupedStream) (initial : aggregate)
      (fold : String → value → aggregate → aggregate) (store : Store),
      let built := Aggregation.lower window stream initial fold store
      (∀ cause, built.outcome = .error (.invariant cause) ↔ window.lower = .error cause) ∧
      ∀ error, built.outcome = .error error → built.records = [] := by
  refine ⟨?_, ?_, ?_⟩
  · intro window
    refine ⟨?_, fun descriptor => lower_ok_iff_describedBy,
      fun cause => lower_error_iff_firstOverflow⟩
    simp only [lower_ok_iff_describedBy]
    exact exists_describedBy_iff
  · intro first second left right lowered otherLowered
    exact descriptor_eq_iff lowered otherLowered
  · intro value aggregate window stream initial fold store built
    exact ⟨fun cause => built_invariant_iff, fun error unbuilt => records_of_unbuilt unbuilt⟩

end StreamWindow
