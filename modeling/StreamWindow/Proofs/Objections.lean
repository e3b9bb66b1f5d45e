import StreamWindow.Proofs.Coverage

/-!
What a window is refused for. Of all that can be said against it a validation reports what comes
first, and the advance of a hopping window is too long when its windows leave a gap.
-/

namespace StreamWindow

/-- What can be said against a window, with its place in the order in which it counts. -/
inductive Window.Objection (window : Window) : Nat → Violation → Prop
  | extentOverflow (long : Word.largest < window.extent.2.exactMillis) :
      Objection window 0 (.overflow window.extent.2)
  | advanceOverflow {advance : Duration} (advances : window.duration? .advance = some advance)
      (long : Word.largest < advance.exactMillis) : Objection window 1 (.overflow advance)
  | extentZero (zero : window.extent.2.exactMillis = 0) :
      Objection window 2 (.notPositive window.extent.1)
  | advanceZero {advance : Duration} (advances : window.duration? .advance = some advance)
      (zero : advance.exactMillis = 0) : Objection window 3 (.notPositive .advance)
  | advanceExceedsSize {advance : Duration} {sizeMillis advanceMillis : UInt64}
      (advances : window.duration? .advance = some advance)
      (sized : window.extent.2.exactMillis = sizeMillis.toNat)
      (advanced : advance.exactMillis = advanceMillis.toNat)
      (exceeds : window.extent.2.exactMillis < advance.exactMillis) :
      Objection window 4 (.advanceExceedsSize sizeMillis advanceMillis)

def Window.FirstObjection (window : Window) (cause : Violation) : Prop :=
  ∃ place, window.Objection place cause ∧
    ∀ other later, window.Objection other later → place ≤ other

theorem Window.Objection.unique {window : Window} {place : Nat} {cause other : Violation}
    (first : window.Objection place cause) (second : window.Objection place other) :
    cause = other := by
  cases first with
  | extentOverflow long =>
      cases second
      rfl
  | advanceOverflow advances long =>
      cases second with
      | advanceOverflow again _ => rw [Option.some.inj (advances.symm.trans again)]
  | extentZero zero =>
      cases second
      rfl
  | advanceZero advances zero =>
      cases second
      rfl
  | advanceExceedsSize advances sized advanced exceeds =>
      cases second with
      | advanceExceedsSize again sizedAgain advancedAgain _ =>
          obtain rfl := Option.some.inj (advances.symm.trans again)
          have sizes := UInt64.toNat_inj.mp (sized.symm.trans sizedAgain)
          have advances := UInt64.toNat_inj.mp (advanced.symm.trans advancedAgain)
          rw [sizes, advances]

theorem Window.FirstObjection.unique {window : Window} {cause other : Violation}
    (first : window.FirstObjection cause) (second : window.FirstObjection other) :
    cause = other := by
  obtain ⟨place, objection, least⟩ := first
  obtain ⟨otherPlace, otherObjection, otherLeast⟩ := second
  have before := least _ _ otherObjection
  have after := otherLeast _ _ objection
  obtain rfl : place = otherPlace := by omega
  exact objection.unique otherObjection

section

variable {window : Window} {place : Nat} {cause : Violation}
  (objection : window.Objection place cause)

include objection

theorem Window.Objection.one_le (extentFits : window.extent.2.exactMillis ≤ Word.largest) :
    1 ≤ place := by
  cases objection with
  | extentOverflow long => omega
  | _ => omega

theorem Window.Objection.two_le (fits : window.Every (·.exactMillis ≤ Word.largest)) :
    2 ≤ place := by
  have extentFits := fits.extent
  cases objection with
  | extentOverflow long => omega
  | advanceOverflow advances long =>
      have advanceFits := fits _ _ advances
      omega
  | _ => omega

theorem Window.Objection.three_le (fits : window.Every (·.exactMillis ≤ Word.largest))
    (extentPositive : 0 < window.extent.2.exactMillis) : 3 ≤ place := by
  have later := objection.two_le fits
  cases objection with
  | extentZero zero => omega
  | _ => omega

theorem Window.Objection.four_le (bounded : window.Every fun duration =>
    0 < duration.exactMillis ∧ duration.exactMillis ≤ Word.largest) : 4 ≤ place := by
  have fits : window.Every (·.exactMillis ≤ Word.largest) :=
    fun measure duration has => (bounded measure duration has).2
  have later := objection.three_le fits bounded.extent.1
  cases objection with
  | advanceZero advances zero =>
      have advancePositive := (bounded _ _ advances).1
      omega
  | _ => omega

end

structure Window.Sound (window : Window) : Prop where
  bounded : window.Every fun duration =>
    0 < duration.exactMillis ∧ duration.exactMillis ≤ Word.largest
  within : ∀ advance, window.duration? .advance = some advance →
    advance.exactMillis ≤ window.extent.2.exactMillis

theorem Window.Sound.no_objection {window : Window} (sound : window.Sound) {place : Nat}
    {cause : Violation} : ¬ window.Objection place cause := by
  intro objection
  have last := objection.four_le sound.bounded
  cases objection with
  | advanceExceedsSize advances sized advanced exceeds =>
      have within := sound.within _ advances
      omega
  | _ => omega

/-! Validation. Windows that do not advance are checked in one and the same way. -/

theorem validate_still {window : Window} (still : window.duration? .advance = none) :
    window.validate = window.extent.2.millis >>= fun _ =>
      Window.requirePositive window.extent.1 window.extent.2 := by
  cases window with
  | tumbling size => rfl
  | hopping size advance => contradiction
  | session gap => rfl

theorem sound_iff {window : Window} : window.Sound ↔
    (0 < window.extent.2.exactMillis ∧ window.extent.2.exactMillis ≤ Word.largest) ∧
      ∀ advance, window.duration? .advance = some advance →
        0 < advance.exactMillis ∧ advance.exactMillis ≤ window.extent.2.exactMillis := by
  constructor
  · intro sound
    refine ⟨sound.bounded.extent, ?_⟩
    intro advance advances
    exact ⟨(sound.bounded _ _ advances).1, sound.within _ advances⟩
  · rintro ⟨extent, advances⟩
    constructor
    · refine every_iff.mpr ⟨extent, ?_⟩
      intro advance has
      have bounded := advances advance has
      omega
    · intro advance has
      exact (advances advance has).2

theorem validate_ok_iff_sound {window : Window} : window.validate = .ok () ↔ window.Sound := by
  rw [sound_iff]
  cases advances : window.duration? .advance with
  | none =>
      simp only [validate_still advances, bind_eq_ok_iff, Duration.millis_eq_ok_iff,
        requirePositive_eq_ok_iff, exists_and_right, Duration.fits_iff]
      simp [and_comm]
  | some advance =>
      obtain ⟨size, rfl⟩ := hopping_of_advance advances
      rw [validate_hopping_iff]
      constructor
      · rintro ⟨sizeMillis, advanceMillis, sized, advanced, sizePositive, advancePositive, ordered⟩
        refine ⟨⟨sizePositive, Duration.fits_iff.mp ⟨_, sized⟩⟩, ?_⟩
        rintro _ ⟨rfl⟩
        exact ⟨advancePositive, ordered⟩
      · rintro ⟨⟨sizePositive, sizeFits⟩, bounded⟩
        obtain ⟨advancePositive, ordered⟩ := bounded advance rfl
        obtain ⟨sizeMillis, sized⟩ := Duration.fits_iff.mpr sizeFits
        obtain ⟨advanceMillis, advanced⟩ := Duration.fits_iff.mpr (Nat.le_trans ordered sizeFits)
        exact ⟨sizeMillis, advanceMillis, sized, advanced, sizePositive, advancePositive, ordered⟩

theorem firstObjection_still {window : Window} {cause : Violation}
    (still : window.duration? .advance = none) (refused : window.validate = .error cause) :
    window.FirstObjection cause := by
  rw [validate_still still] at refused
  rcases bind_eq_error_iff.mp refused with overflows | ⟨millis, extentFits, notPositive⟩
  · obtain ⟨long, rfl⟩ := Duration.millis_eq_error_iff.mp overflows
    exact ⟨0, .extentOverflow long, fun place _ _ => Nat.zero_le place⟩
  · obtain ⟨zero, rfl⟩ := requirePositive_eq_error_iff.mp notPositive
    have fits : window.Every (·.exactMillis ≤ Word.largest) := by
      rw [every_still_iff still, zero]
      exact Nat.zero_le _
    exact ⟨2, .extentZero zero, fun _ _ objection => objection.two_le fits⟩

theorem firstObjection_hopping {size advance : Duration} {cause : Violation}
    (refused : (Window.hopping size advance).validate = .error cause) :
    (Window.hopping size advance).FirstObjection cause := by
  simp only [Window.validate, bind_eq_error_iff, Duration.millis_eq_error_iff,
    Duration.millis_eq_ok_iff, requirePositive_eq_error_iff, requirePositive_eq_ok_iff]
    at refused
  -- Each check that is passed moves the place from which objections can still come.
  rcases refused with ⟨long, rfl⟩ | ⟨sizeMillis, sized, refused⟩
  · exact ⟨0, .extentOverflow long, fun place _ _ => Nat.zero_le place⟩
  have sizeFits := Duration.fits_iff.mp ⟨_, sized⟩
  rcases refused with ⟨long, rfl⟩ | ⟨advanceMillis, advanced, refused⟩
  · exact ⟨1, .advanceOverflow rfl long, fun _ _ objection => objection.one_le sizeFits⟩
  have advanceFits := Duration.fits_iff.mp ⟨_, advanced⟩
  have fits : (Window.hopping size advance).Every (·.exactMillis ≤ Word.largest) :=
    every_hopping_iff.mpr ⟨sizeFits, advanceFits⟩
  rcases refused with ⟨zero, rfl⟩ | ⟨_, sizePositive, refused⟩
  · exact ⟨2, .extentZero zero, fun _ _ objection => objection.two_le fits⟩
  rcases refused with ⟨zero, rfl⟩ | ⟨_, advancePositive, refused⟩
  · exact ⟨3, .advanceZero rfl zero, fun _ _ objection => objection.three_le fits sizePositive⟩
  have bounded : (Window.hopping size advance).Every fun duration =>
      0 < duration.exactMillis ∧ duration.exactMillis ≤ Word.largest :=
    every_hopping_iff.mpr ⟨⟨sizePositive, sizeFits⟩, ⟨advancePositive, advanceFits⟩⟩
  split at refused
  · next exceeds =>
      rw [UInt64.lt_iff_toNat_lt, ← sized, ← advanced] at exceeds
      obtain rfl := Except.error.inj refused
      exact ⟨4, .advanceExceedsSize rfl sized advanced exceeds,
        fun _ _ objection => objection.four_le bounded⟩
  · contradiction

theorem firstObjection_of_validate {window : Window} {cause : Violation}
    (refused : window.validate = .error cause) : window.FirstObjection cause := by
  cases advances : window.duration? .advance with
  | none => exact firstObjection_still advances refused
  | some advance =>
      obtain ⟨size, rfl⟩ := hopping_of_advance advances
      exact firstObjection_hopping refused

theorem validate_error_iff_first {window : Window} {cause : Violation} :
    window.validate = .error cause ↔ window.FirstObjection cause := by
  constructor
  · exact firstObjection_of_validate
  · intro first
    cases validated : window.validate with
    | ok =>
        obtain ⟨place, objection, _⟩ := first
        exact absurd objection (validate_ok_iff_sound.mp validated).no_objection
    | error other =>
        rw [first.unique (firstObjection_of_validate validated)]

namespace TimeWindows

theorem exists_uncovered_iff {windows : TimeWindows} (sized : windows.size ≠ 0)
    (advanced : windows.advance ≠ 0) :
    (∃ timestamp : UInt64, timestamp.toNat < Word.largest ∧ windows.windowsFor timestamp = []) ↔
      windows.size.toNat < windows.advance.toNat := by
  constructor
  · rintro ⟨timestamp, early, uncovered⟩
    apply Nat.lt_of_not_le
    intro overlap
    exact (windowsFor_ne_nil_iff sized advanced overlap).mpr early uncovered
  · intro apart
    have fits := Word.toNat_le_largest windows.advance
    refine ⟨windows.size, by omega, ?_⟩
    rw [List.eq_nil_iff_forall_not_mem]
    intro bounds member
    obtain ⟨⟨index, starts, ends⟩, inside⟩ := (mem_windowsFor_iff sized advanced).mp member
    rw [WindowBounds.contains_iff] at inside
    by_cases first : index = 0
    · subst first
      omega
    · have later := Nat.le_mul_of_pos_left windows.advance.toNat (Nat.pos_of_ne_zero first)
      omega

end TimeWindows

theorem advanceExceedsSize_iff {size advance : Duration}
    (bounded : (Window.hopping size advance).Every fun duration =>
      0 < duration.exactMillis ∧ duration.exactMillis ≤ Word.largest) :
    (∃ sizeMillis advanceMillis, (Window.hopping size advance).validate =
        .error (.advanceExceedsSize sizeMillis advanceMillis)) ↔
      size.exactMillis < advance.exactMillis := by
  simp only [validate_error_iff_first]
  constructor
  · rintro ⟨sizeMillis, advanceMillis, place, objection, _⟩
    cases objection with
    | advanceExceedsSize advances _ _ exceeds =>
        obtain rfl := Option.some.inj advances
        exact exceeds
  · intro exceeds
    obtain ⟨⟨_, sizeFits⟩, ⟨_, advanceFits⟩⟩ := every_hopping_iff.mp bounded
    obtain ⟨sizeMillis, sizeExact⟩ := Duration.fits_iff.mpr sizeFits
    obtain ⟨advanceMillis, advanceExact⟩ := Duration.fits_iff.mpr advanceFits
    exact ⟨sizeMillis, advanceMillis, 4, .advanceExceedsSize rfl sizeExact advanceExact exceeds,
      fun _ _ objection => objection.four_le bounded⟩

/-- Validation accepts the sound windows and refuses every other one for the first objection
there is. A hopping window with positive lengths in range is refused for its advance exactly when
the windows that it lowers to leave out some timestamp below the largest. -/
theorem validate_decides (window : Window) :
    (window.validate = .ok () ↔ window.Sound) ∧
    (∀ cause, window.validate = .error cause ↔ window.FirstObjection cause) ∧
    ∀ size advance, window = .hopping size advance →
      (window.Every fun duration =>
        0 < duration.exactMillis ∧ duration.exactMillis ≤ Word.largest) →
      ∃ windows, window.lower = .ok (.time windows) ∧
        ((∃ sizeMillis advanceMillis,
            window.validate = .error (.advanceExceedsSize sizeMillis advanceMillis)) ↔
          ∃ timestamp : UInt64, timestamp.toNat < Word.largest ∧
            windows.windowsFor timestamp = []) := by
  refine ⟨validate_ok_iff_sound, fun cause => validate_error_iff_first, ?_⟩
  rintro size advance rfl bounded
  obtain ⟨⟨sizePositive, sizeFits⟩, ⟨advancePositive, advanceFits⟩⟩ := every_hopping_iff.mp bounded
  obtain ⟨sizeMillis, sized⟩ := Duration.fits_iff.mpr sizeFits
  obtain ⟨advanceMillis, advanced⟩ := Duration.fits_iff.mpr advanceFits
  have sizeNonzero := Duration.ne_zero_of_positive sized sizePositive
  have advanceNonzero := Duration.ne_zero_of_positive advanced advancePositive
  refine ⟨_, lower_hopping_iff.mpr ⟨_, Duration.millis_eq_ok_iff.mpr sized, _,
    Duration.millis_eq_ok_iff.mpr advanced, rfl⟩, ?_⟩
  rw [advanceExceedsSize_iff bounded, sized, advanced]
  apply Iff.symm
  exact TimeWindows.exists_uncovered_iff sizeNonzero advanceNonzero

/-- A size of zero counts less than an advance that no word holds. -/
example : (Window.hopping ⟨0, .seconds⟩ ⟨18446744073709551615, .days⟩).validate =
    .error (.overflow ⟨18446744073709551615, .days⟩) := by cbv

end StreamWindow
