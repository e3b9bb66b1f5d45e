import StreamWindow.Proofs.Hints
import StreamWindow.Proofs.Objections

/-!
Checking a clause. A check reports one thing at most: why the clause is refused, or else a hint.
The cap on the extent is compared in whole milliseconds and cut off at the largest word, and yet
it decides as exact lengths do.
-/

namespace StreamWindow

def Duration.exactNanos (duration : Duration) : Nat :=
  duration.exactMillis * 1000000

def Window.Exceeds (window : Window) (cap : Span) : Prop :=
  cap.exactNanos < window.extent.2.exactNanos

/-- The cap that a window exceeds is told in whole milliseconds, at most the largest word. -/
inductive Window.CapExceeded (window : Window) (cap : Option Span) : Violation → Prop
  | intro {limit : Span} {millis capMillis : UInt64} (capped : cap = some limit)
      (exceeds : window.Exceeds limit) (exact : window.extent.2.exactMillis = millis.toNat)
      (floored : capMillis.toNat = min (limit.exactNanos / 1000000) Word.largest) :
      CapExceeded window cap (.exceedsCap window.extent.1 millis capMillis)

def Window.Refused (window : Window) (cap : Option Span) (cause : Violation) : Prop :=
  window.validate = .error cause ∨
    window.validate = .ok () ∧ window.CapExceeded cap cause

def Window.Remarkable (window : Window) : Prop :=
  ∃ size advance, window = .hopping size advance ∧
    (advance.exactMillis = size.exactMillis ∨ ¬ advance.exactMillis ∣ size.exactMillis)

theorem clamp_cap_lt_iff {cap : Span} {millis : UInt64} :
    Word.clamp cap.millis < millis ↔ cap.exactNanos < millis.toNat * 1000000 := by
  have bound := Word.toNat_le_largest millis
  rw [UInt64.lt_iff_toNat_lt, Word.toNat_clamp, Span.millis_eq_exactNanos_div]
  omega

theorem toNat_clamp_cap (cap : Span) :
    (Word.clamp cap.millis).toNat = min (cap.exactNanos / 1000000) Word.largest := by
  rw [Word.toNat_clamp, Span.millis_eq_exactNanos_div]

theorem respectCap_error_iff {window : Window} {cap : Option Span} {cause : Violation}
    (fits : window.extent.2.exactMillis ≤ Word.largest) :
    window.respectCap cap = .error cause ↔ window.CapExceeded cap cause := by
  obtain ⟨millis, exact⟩ := Duration.fits_iff.mpr fits
  cases cap with
  | none =>
      constructor
      · intro refused
        contradiction
      · intro exceeded
        cases exceeded with
        | intro capped => contradiction
  | some limit =>
      have decided : Word.clamp limit.millis < millis ↔ window.Exceeds limit := by
        rw [clamp_cap_lt_iff, ← exact]
        rfl
      simp only [respectCap_some, bind_eq_error_iff, Duration.millis_eq_error_iff,
        Duration.millis_eq_ok_iff]
      constructor
      · rintro (⟨long, _⟩ | ⟨extent, again, refused⟩)
        · omega
        · obtain rfl := UInt64.toNat_inj.mp (exact.symm.trans again)
          split at refused
          · next exceeds =>
              obtain rfl := Except.error.inj refused
              exact ⟨rfl, decided.mp exceeds, exact, toNat_clamp_cap limit⟩
          · contradiction
      · intro exceeded
        cases exceeded with
        | intro capped exceeds again floored =>
            obtain rfl := Option.some.inj capped
            obtain rfl := UInt64.toNat_inj.mp (exact.symm.trans again)
            rw [← toNat_clamp_cap, UInt64.toNat_inj] at floored
            exact .inr ⟨_, exact, by rw [if_pos (decided.mpr exceeds), floored]⟩

theorem refused_iff {window : Window} {cap : Option Span} {cause : Violation} :
    (do window.validate; window.respectCap cap) = .error cause ↔ window.Refused cap cause := by
  rw [bind_eq_error_iff]
  unfold Window.Refused
  cases validated : window.validate with
  | error other => simp
  | ok =>
      have fits := (validate_ok_iff_sound.mp validated).bounded.extent.2
      simp [respectCap_error_iff fits]

theorem refused_of_exceeds {window : Window} {cap : Span} (valid : window.validate = .ok ())
    (exceeds : window.Exceeds cap) : ∃ millis capMillis,
      window.Refused (some cap) (.exceedsCap window.extent.1 millis capMillis) := by
  have fits := (validate_ok_iff_sound.mp valid).bounded.extent.2
  obtain ⟨millis, exact⟩ := Duration.fits_iff.mpr fits
  exact ⟨millis, _, .inr ⟨valid, rfl, exceeds, exact, toNat_clamp_cap cap⟩⟩

theorem validate_of_unrefused {window : Window} {cap : Option Span}
    (unrefused : ∀ cause, ¬ window.Refused cap cause) : window.validate = .ok () := by
  cases validated : window.validate with
  | ok => rfl
  | error cause => exact absurd (.inl validated) (unrefused cause)

/-! Hints. -/

theorem hints_shape (window : Window) :
    window.hints = [] ∨ ∃ issue, window.hints = [issue] ∧
      ∀ cause, issue ≠ .violation cause := by
  cases window with
  | tumbling size => exact .inl rfl
  | session gap => exact .inl rfl
  | hopping size advance =>
      simp only [Window.hints]
      split
      · split
        · exact .inl rfl
        · split
          · exact .inr ⟨_, rfl, by simp⟩
          · split
            · exact .inl rfl
            · exact .inr ⟨_, rfl, by simp⟩
      · exact .inl rfl

theorem remarkable_hopping_iff {size advance : Duration} :
    (Window.hopping size advance).Remarkable ↔
      advance.exactMillis = size.exactMillis ∨ ¬ advance.exactMillis ∣ size.exactMillis := by
  constructor
  · rintro ⟨_, _, ⟨rfl, rfl⟩, found⟩
    exact found
  · intro found
    exact ⟨size, advance, rfl, found⟩

theorem hints_ne_nil_iff {window : Window} (valid : window.validate = .ok ()) :
    window.hints ≠ [] ↔ window.Remarkable := by
  by_cases hopping : window.kind = .hopping
  · obtain ⟨size, advance, rfl⟩ := Window.kind_eq_hopping hopping
    obtain ⟨windows, lowered, advanced, _⟩ := time_of_validate valid (by simp [Window.kind])
    obtain ⟨sizeMillis, sized, advanceMillis, counted, same⟩ := lower_hopping_iff.mp lowered
    obtain rfl : windows = ⟨sizeMillis, advanceMillis⟩ := Descriptor.time.inj same
    rw [remarkable_hopping_iff, hints_hopping lowered advanced, Duration.millis_eq_ok_iff.mp sized,
      Duration.millis_eq_ok_iff.mp counted, UInt64.toNat_inj]
    by_cases tumbling : sizeMillis = advanceMillis
    · simp [TimeWindows.isTumbling, tumbling]
    · by_cases even : advanceMillis.toNat ∣ sizeMillis.toNat
      · simp [TimeWindows.isTumbling, tumbling, even, Ne.symm tumbling]
      · simp [TimeWindows.isTumbling, tumbling, even]
  · rw [hints_not_hopping hopping]
    simp only [ne_eq, not_true_eq_false, false_iff]
    rintro ⟨size, advance, same, _⟩
    rw [same] at hopping
    contradiction

/-! The two shapes of a check. -/

section

variable {clause : Clause} {options : CheckOptions}

theorem check_of_refused {cause : Violation} (refused : clause.window.Refused options.cap cause) :
    clause.check options = [⟨.error, .violation cause, clause.location⟩] := by
  unfold Clause.check
  rw [findings_of_violation (refused_iff.mpr refused)]
  split
  · rfl
  · rfl

theorem check_of_unrefused (unrefused : ∀ cause, ¬ clause.window.Refused options.cap cause) :
    clause.check options = clause.window.hints.map fun issue =>
      ⟨if options.denyWarnings then .error else .warning, issue, clause.location⟩ := by
  have passed : (do clause.window.validate; clause.window.respectCap options.cap) = .ok () := by
    cases checked : (do clause.window.validate; clause.window.respectCap options.cap) with
    | ok => rfl
    | error cause => exact absurd (refused_iff.mp checked) (unrefused cause)
  unfold Clause.check
  rw [findings_of_passed passed]
  cases denied : options.denyWarnings with
  | true => simp [Function.comp_def]
  | false => simp

theorem unrefused_of_clean (clean : hasErrors (clause.check options) = false) (cause : Violation) :
    ¬ clause.window.Refused options.cap cause := by
  intro refused
  rw [hasErrors_check (refused_iff.mpr refused)] at clean
  contradiction

theorem check_shape (clause : Clause) (options : CheckOptions) :
    (∃ cause, clause.window.Refused options.cap cause ∧
      clause.check options = [⟨.error, .violation cause, clause.location⟩]) ∨
    clause.check options = [] ∨
    ∃ issue, (∀ cause, issue ≠ .violation cause) ∧ clause.check options =
      [⟨if options.denyWarnings then .error else .warning, issue, clause.location⟩] := by
  by_cases refused : ∃ cause, clause.window.Refused options.cap cause
  · obtain ⟨cause, refused⟩ := refused
    exact .inl ⟨cause, refused, check_of_refused refused⟩
  · rw [check_of_unrefused (not_exists.mp refused)]
    rcases hints_shape clause.window with none | ⟨issue, one, hint⟩
    · exact .inr (.inl (by rw [none]; rfl))
    · exact .inr (.inr ⟨issue, hint, by rw [one]; rfl⟩)

theorem mem_check {diagnostic : Diagnostic} (member : diagnostic ∈ clause.check options) :
    (∃ cause, clause.window.Refused options.cap cause ∧
      diagnostic = ⟨.error, .violation cause, clause.location⟩) ∨
    ∃ issue, (∀ cause, issue ≠ .violation cause) ∧ diagnostic =
      ⟨if options.denyWarnings then .error else .warning, issue, clause.location⟩ := by
  rcases check_shape clause options with ⟨cause, refused, shape⟩ | shape | ⟨issue, hint, shape⟩
  · rw [shape, List.mem_singleton] at member
    exact .inl ⟨cause, refused, member⟩
  · rw [shape] at member
    contradiction
  · rw [shape, List.mem_singleton] at member
    exact .inr ⟨issue, hint, member⟩

theorem length_check_le_one (clause : Clause) (options : CheckOptions) :
    (clause.check options).length ≤ 1 := by
  rcases check_shape clause options with ⟨cause, _, shape⟩ | shape | ⟨issue, _, shape⟩
  · rw [shape, List.length_singleton]
  · rw [shape]
    exact Nat.zero_le 1
  · rw [shape, List.length_singleton]

theorem location_of_found {diagnostic : Diagnostic} (member : diagnostic ∈ clause.check options) :
    diagnostic.location = clause.location := by
  rcases mem_check member with ⟨cause, _, rfl⟩ | ⟨issue, _, rfl⟩
  · rfl
  · rfl

theorem violation_found_iff {cause : Violation} :
    (∃ diagnostic ∈ clause.check options, diagnostic.issue = .violation cause) ↔
      clause.window.Refused options.cap cause := by
  constructor
  · rintro ⟨diagnostic, member, violates⟩
    rcases mem_check member with ⟨other, refused, rfl⟩ | ⟨issue, hint, rfl⟩
    · obtain rfl := Issue.violation.inj violates
      exact refused
    · exact absurd violates (hint cause)
  · intro refused
    rw [check_of_refused refused]
    exact ⟨_, List.mem_singleton.mpr rfl, rfl⟩

theorem severity_error_iff {diagnostic : Diagnostic} (member : diagnostic ∈ clause.check options) :
    diagnostic.severity = .error ↔
      options.denyWarnings = true ∨ ∃ cause, diagnostic.issue = .violation cause := by
  rcases mem_check member with ⟨cause, _, rfl⟩ | ⟨issue, hint, rfl⟩
  · simp
  · cases options.denyWarnings with
    | true => simp
    | false => simp [hint]

theorem hint_found_iff (unrefused : ∀ cause, ¬ clause.window.Refused options.cap cause) :
    clause.check options ≠ [] ↔ clause.window.Remarkable := by
  rw [check_of_unrefused unrefused, ← hints_ne_nil_iff (validate_of_unrefused unrefused), ne_eq,
    List.map_eq_nil_iff]

end

theorem check_denied (clause : Clause) (cap : Option Span) :
    clause.check ⟨cap, true⟩ =
      (clause.check ⟨cap, false⟩).map fun found => { found with severity := .error } :=
  rfl

theorem hasErrors_denied_iff (clause : Clause) (cap : Option Span) :
    hasErrors (clause.check ⟨cap, true⟩) = true ↔ clause.check ⟨cap, false⟩ ≠ [] := by
  rw [check_denied]
  cases clause.check ⟨cap, false⟩ with
  | nil => simp [hasErrors]
  | cons found later => simp [hasErrors, Diagnostic.isError]

/-- A check reports one thing at most, at the place of the clause. It is a violation exactly when
the window is not valid, which counts first, or exceeds the cap; else it is a hint, and only some
hopping windows get one. Denying warnings makes everything that is found an error and changes
nothing else. -/
theorem check_reports_once (clause : Clause) (options : CheckOptions) :
    let found := clause.check options
    let refused := clause.window.Refused options.cap
    found.length ≤ 1 ∧
    (∀ diagnostic ∈ found, diagnostic.location = clause.location) ∧
    (∀ cause, (∃ diagnostic ∈ found, diagnostic.issue = .violation cause) ↔ refused cause) ∧
    (∀ diagnostic ∈ found, diagnostic.severity = .error ↔
      options.denyWarnings = true ∨ ∃ cause, diagnostic.issue = .violation cause) ∧
    ((∀ cause, ¬ refused cause) → (found ≠ [] ↔ clause.window.Remarkable)) ∧
    ∀ cap, clause.check ⟨cap, true⟩ =
        (clause.check ⟨cap, false⟩).map (fun found => { found with severity := .error }) ∧
      (hasErrors (clause.check ⟨cap, true⟩) = true ↔ clause.check ⟨cap, false⟩ ≠ []) := by
  intro found refused
  exact ⟨length_check_le_one clause options, fun diagnostic => location_of_found,
    fun cause => violation_found_iff, fun diagnostic => severity_error_iff, hint_found_iff,
    fun cap => ⟨check_denied clause cap, hasErrors_denied_iff clause cap⟩⟩

/-! The cap. -/

section

variable {clause : Clause} {cap : Span} {denyWarnings : Bool}

theorem exceeds_of_found {diagnostic : Diagnostic} {measure : Measure} {millis capMillis : UInt64}
    (valid : clause.window.validate = .ok ())
    (member : diagnostic ∈ clause.check ⟨some cap, denyWarnings⟩)
    (told : diagnostic.issue = .violation (.exceedsCap measure millis capMillis)) :
    clause.window.Exceeds cap ∧ measure = clause.window.extent.1 ∧
      millis.toNat = clause.window.extent.2.exactMillis ∧
      capMillis.toNat = min (cap.exactNanos / 1000000) Word.largest := by
  rcases violation_found_iff.mp ⟨diagnostic, member, told⟩ with invalid | ⟨_, exceeded⟩
  · rw [valid] at invalid
    contradiction
  · cases exceeded with
    | intro capped exceeds exact floored =>
        obtain rfl := Option.some.inj capped
        exact ⟨exceeds, rfl, exact.symm, floored⟩

theorem exceeds_found_iff (valid : clause.window.validate = .ok ()) :
    (∃ diagnostic ∈ clause.check ⟨some cap, denyWarnings⟩, ∃ measure millis capMillis,
        diagnostic.issue = .violation (.exceedsCap measure millis capMillis)) ↔
      clause.window.Exceeds cap := by
  constructor
  · rintro ⟨diagnostic, member, measure, millis, capMillis, told⟩
    exact (exceeds_of_found valid member told).1
  · intro exceeds
    obtain ⟨millis, capMillis, refused⟩ := refused_of_exceeds valid exceeds
    rw [check_of_refused refused]
    exact ⟨_, List.mem_singleton.mpr rfl, _, _, _, rfl⟩

theorem within_of_clean (clean : hasErrors (clause.check ⟨some cap, denyWarnings⟩) = false) :
    ¬ clause.window.Exceeds cap := by
  intro exceeds
  obtain ⟨millis, capMillis, refused⟩ := refused_of_exceeds (validate_of_clean clean) exceeds
  exact unrefused_of_clean clean _ refused

theorem check_of_clean {other : Option Span}
    (clean : hasErrors (clause.check ⟨some cap, denyWarnings⟩) = false)
    (within : ∀ limit, other = some limit → ¬ clause.window.Exceeds limit) :
    clause.check ⟨other, denyWarnings⟩ = clause.check ⟨some cap, denyWarnings⟩ := by
  have valid := validate_of_clean clean
  have unrefusedOther : ∀ cause, ¬ clause.window.Refused other cause := by
    rintro cause (invalid | ⟨_, exceeded⟩)
    · rw [valid] at invalid
      contradiction
    · cases exceeded with
      | intro capped exceeds exact floored => exact within _ capped exceeds
  rw [check_of_unrefused (unrefused_of_clean clean), check_of_unrefused unrefusedOther]

theorem every_within_of_clean
    (clean : hasErrors (clause.check ⟨some cap, denyWarnings⟩) = false) :
    clause.window.Every fun duration => duration.exactNanos ≤ cap.exactNanos := by
  have within := within_of_clean clean
  have sound := validate_ok_iff_sound.mp (validate_of_clean clean)
  unfold Window.Exceeds Duration.exactNanos at within
  unfold Duration.exactNanos
  rw [every_iff]
  refine ⟨by omega, ?_⟩
  intro advance advances
  have ordered := sound.within advance advances
  omega

end

/-- A valid window is reported to exceed the cap exactly when its extent is longer, in nanoseconds
and without bounds, and the report tells the extent exactly and the cap in whole milliseconds or
as the largest word. A clause without errors has none under a higher cap or under no cap, and none
of its durations is longer than the cap. -/
theorem cap_decides_exactly (clause : Clause) (cap : Span) (denyWarnings : Bool) :
    let found := clause.check ⟨some cap, denyWarnings⟩
    (clause.window.validate = .ok () →
      ((∃ diagnostic ∈ found, ∃ measure millis capMillis,
        diagnostic.issue = .violation (.exceedsCap measure millis capMillis)) ↔
          clause.window.Exceeds cap) ∧
      ∀ diagnostic ∈ found, ∀ measure millis capMillis,
        diagnostic.issue = .violation (.exceedsCap measure millis capMillis) →
          measure = clause.window.extent.1 ∧
          millis.toNat = clause.window.extent.2.exactMillis ∧
          capMillis.toNat = min (cap.exactNanos / 1000000) Word.largest) ∧
    (hasErrors found = false →
      (∀ raised : Span, cap.exactNanos ≤ raised.exactNanos →
        hasErrors (clause.check ⟨some raised, denyWarnings⟩) = false) ∧
      hasErrors (clause.check ⟨none, denyWarnings⟩) = false ∧
      clause.window.Every fun duration => duration.exactNanos ≤ cap.exactNanos) := by
  intro found
  refine ⟨?_, ?_⟩
  · intro valid
    refine ⟨exceeds_found_iff valid, ?_⟩
    intro diagnostic member measure millis capMillis told
    exact (exceeds_of_found valid member told).2
  · intro clean
    have within := within_of_clean clean
    refine ⟨?_, ?_, every_within_of_clean clean⟩
    · intro raised higher
      have same : clause.check ⟨some raised, denyWarnings⟩ = found := by
        apply check_of_clean clean
        rintro limit ⟨rfl⟩
        unfold Window.Exceeds at within ⊢
        omega
      rw [same]
      exact clean
    · have same : clause.check ⟨none, denyWarnings⟩ = found := by
        apply check_of_clean clean
        intro limit capped
        contradiction
      rw [same]
      exact clean

/-- The shortest session is longer than any cap below one millisecond. -/
example : Clause.check ⟨.session ⟨1, .milliseconds⟩, none⟩ ⟨some ⟨0, 999999, by decide⟩, false⟩ =
    [⟨.error, .violation (.exceedsCap .gap 1 0), none⟩] := by decide

end StreamWindow
