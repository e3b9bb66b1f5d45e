import StreamWindow.Window
import StreamWindow.Proofs.Fallible

/-! When a window is valid, in terms of the exact lengths of its durations. -/

namespace StreamWindow

def Window.duration? : Window → Measure → Option Duration
  | tumbling size, .size => some size
  | hopping size _, .size => some size
  | hopping _ advance, .advance => some advance
  | session gap, .gap => some gap
  | _, _ => none

theorem duration?_extent (window : Window) :
    window.duration? window.extent.1 = some window.extent.2 := by
  cases window <;> rfl

theorem hopping_of_advance {window : Window} {advance : Duration}
    (advances : window.duration? .advance = some advance) :
    ∃ size, window = .hopping size advance := by
  cases window with
  | hopping size _ =>
      obtain rfl := Option.some.inj advances
      exact ⟨size, rfl⟩
  | tumbling size => contradiction
  | session gap => contradiction

def Window.Every (window : Window) (holds : Duration → Prop) : Prop :=
  ∀ measure duration, window.duration? measure = some duration → holds duration

theorem Window.Every.extent {window : Window} {holds : Duration → Prop}
    (every : window.Every holds) : holds window.extent.2 :=
  every _ _ (duration?_extent window)

theorem every_iff {window : Window} {holds : Duration → Prop} :
    window.Every holds ↔ holds window.extent.2 ∧
      ∀ advance, window.duration? .advance = some advance → holds advance := by
  constructor
  · intro every
    exact ⟨every.extent, every .advance⟩
  · rintro ⟨extent, advances⟩ measure duration has
    by_cases advancing : measure = .advance
    · subst advancing
      exact advances duration has
    · have same : duration = window.extent.2 := by
        cases window <;> cases measure <;> simp_all [Window.duration?, Window.extent]
      rw [same]
      exact extent

theorem every_still_iff {window : Window} (still : window.duration? .advance = none)
    {holds : Duration → Prop} : window.Every holds ↔ holds window.extent.2 := by
  rw [every_iff]
  simp [still]

theorem every_hopping_iff {size advance : Duration} {holds : Duration → Prop} :
    (Window.hopping size advance).Every holds ↔ holds size ∧ holds advance := by
  rw [every_iff]
  simp [Window.extent, Window.duration?]

theorem Duration.millis_eq_ok_iff {duration : Duration} {millis : UInt64} :
    duration.millis = .ok millis ↔ duration.exactMillis = millis.toNat := by
  rw [← Duration.millis?_eq_some_iff]
  unfold Duration.millis
  split
  · next found =>
      rw [found]
      simp
  · next missing =>
      rw [missing]
      simp

theorem Duration.millis_eq_error_iff {duration : Duration} {cause : Violation} :
    duration.millis = .error cause ↔
      Word.largest < duration.exactMillis ∧ cause = .overflow duration := by
  rw [← Word.fit?_eq_none_iff]
  unfold Duration.millis Duration.millis?
  split
  · next found =>
      rw [found]
      simp
  · next missing =>
      rw [missing]
      simp [@eq_comm _ cause]

theorem Duration.fits_iff {duration : Duration} :
    (∃ millis : UInt64, duration.exactMillis = millis.toNat) ↔
      duration.exactMillis ≤ Word.largest := by
  constructor
  · rintro ⟨millis, exact⟩
    rw [exact]
    exact Word.toNat_le_largest millis
  · intro fits
    refine ⟨Word.clamp duration.exactMillis, ?_⟩
    rw [Word.toNat_clamp]
    omega

theorem Duration.ne_zero_of_positive {duration : Duration} {millis : UInt64}
    (exact : duration.exactMillis = millis.toNat) (positive : 0 < duration.exactMillis) :
    millis ≠ 0 := by
  rintro rfl
  exact absurd exact (Nat.ne_of_gt positive)

theorem requirePositive_eq_ok_iff {measure : Measure} {duration : Duration} {done : Unit} :
    Window.requirePositive measure duration = .ok done ↔ 0 < duration.exactMillis := by
  rw [Nat.pos_iff_ne_zero, ne_eq, ← Duration.isZero_iff]
  unfold Window.requirePositive
  split
  · next zero => simp [zero]
  · next positive => simp [positive]

theorem requirePositive_eq_error_iff {measure : Measure} {duration : Duration}
    {cause : Violation} : Window.requirePositive measure duration = .error cause ↔
      duration.exactMillis = 0 ∧ cause = .notPositive measure := by
  rw [← Duration.isZero_iff]
  unfold Window.requirePositive
  split
  · next zero => simp [zero, @eq_comm _ cause]
  · next positive => simp [positive]

theorem validate_tumbling_iff {size : Duration} :
    (Window.tumbling size).validate = .ok () ↔
      ∃ sizeMillis : UInt64, size.exactMillis = sizeMillis.toNat ∧ 0 < size.exactMillis := by
  simp only [Window.validate, bind_eq_ok_iff, Duration.millis_eq_ok_iff,
    requirePositive_eq_ok_iff]

theorem validate_hopping_iff {size advance : Duration} :
    (Window.hopping size advance).validate = .ok () ↔
      ∃ sizeMillis advanceMillis : UInt64, size.exactMillis = sizeMillis.toNat ∧
        advance.exactMillis = advanceMillis.toNat ∧ 0 < size.exactMillis ∧
        0 < advance.exactMillis ∧ advance.exactMillis ≤ size.exactMillis := by
  simp only [Window.validate, bind_eq_ok_iff, Duration.millis_eq_ok_iff,
    requirePositive_eq_ok_iff]
  constructor
  · rintro ⟨sizeMillis, sized, advanceMillis, advanced, _, sizePositive, _, advancePositive,
      ordered⟩
    split at ordered
    · contradiction
    · next within =>
        rw [UInt64.lt_iff_toNat_lt] at within
        exact ⟨sizeMillis, advanceMillis, sized, advanced, sizePositive, advancePositive, by omega⟩
  · rintro ⟨sizeMillis, advanceMillis, sized, advanced, sizePositive, advancePositive, ordered⟩
    refine ⟨sizeMillis, sized, advanceMillis, advanced, (), sizePositive, (), advancePositive, ?_⟩
    have within : ¬ sizeMillis < advanceMillis := by
      rw [UInt64.lt_iff_toNat_lt]
      omega
    rw [if_neg within]

end StreamWindow
