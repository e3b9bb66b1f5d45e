import StreamWindow.Plan
import StreamWindow.Proofs.Fallible
import StreamWindow.Proofs.Passes

/-!
Planning. A check without errors leaves nothing that lowering could refuse, so a plan fails only
on the clause itself or on a store that does not fit.
-/

namespace StreamWindow

def Window.Kind.layout : Window.Kind → StoreLayout
  | tumbling => .window
  | hopping => .window
  | session => .session

def Store.Unsuitable (store : Store) (stream : GroupedStream) (kind : Window.Kind) : Prop :=
  store.keyType ≠ stream.keyType ∨ store.valueType ≠ .row ∨ stream.valueType ≠ .row ∨
    (store.layout ≠ .any ∧ store.layout ≠ kind.layout)

theorem lower_tumbling_iff {size : Duration} {descriptor : Descriptor} :
    (Window.tumbling size).lower = .ok descriptor ↔
      ∃ sizeMillis, size.millis = .ok sizeMillis ∧
        descriptor = .time (TimeWindows.tumbling sizeMillis) := by
  simp only [Window.lower, bind_eq_ok_iff, pure, Except.pure, Except.ok.injEq,
    @eq_comm _ descriptor]

theorem lower_hopping_iff {size advance : Duration} {descriptor : Descriptor} :
    (Window.hopping size advance).lower = .ok descriptor ↔
      ∃ sizeMillis, size.millis = .ok sizeMillis ∧
        ∃ advanceMillis, advance.millis = .ok advanceMillis ∧
          descriptor = .time ((TimeWindows.tumbling sizeMillis).advanceBy advanceMillis) := by
  simp only [Window.lower, bind_eq_ok_iff, pure, Except.pure, Except.ok.injEq,
    @eq_comm _ descriptor]

theorem lower_session_iff {gap : Duration} {descriptor : Descriptor} :
    (Window.session gap).lower = .ok descriptor ↔
      ∃ gapMillis, gap.millis = .ok gapMillis ∧ descriptor = .session ⟨gapMillis⟩ := by
  simp only [Window.lower, bind_eq_ok_iff, pure, Except.pure, Except.ok.injEq,
    @eq_comm _ descriptor]

theorem lower_of_validate {window : Window} (valid : window.validate = .ok ()) :
    ∃ descriptor, window.lower = .ok descriptor := by
  cases window with
  | tumbling size =>
      obtain ⟨sizeMillis, sized, _⟩ := bind_eq_ok_iff.mp valid
      exact ⟨_, lower_tumbling_iff.mpr ⟨sizeMillis, sized, rfl⟩⟩
  | hopping size advance =>
      obtain ⟨sizeMillis, sized, later⟩ := bind_eq_ok_iff.mp valid
      obtain ⟨advanceMillis, advanced, _⟩ := bind_eq_ok_iff.mp later
      exact ⟨_, lower_hopping_iff.mpr ⟨sizeMillis, sized, advanceMillis, advanced, rfl⟩⟩
  | session gap =>
      obtain ⟨gapMillis, gapped, _⟩ := bind_eq_ok_iff.mp valid
      exact ⟨_, lower_session_iff.mpr ⟨gapMillis, gapped, rfl⟩⟩

theorem isSession_of_lower {window : Window} {descriptor : Descriptor}
    (lowered : window.lower = .ok descriptor) :
    descriptor.isSession = true ↔ window.kind = .session := by
  cases window with
  | tumbling size =>
      obtain ⟨sizeMillis, _, rfl⟩ := lower_tumbling_iff.mp lowered
      simp [Descriptor.isSession, Window.kind]
  | hopping size advance =>
      obtain ⟨sizeMillis, _, advanceMillis, _, rfl⟩ := lower_hopping_iff.mp lowered
      simp [Descriptor.isSession, Window.kind]
  | session gap =>
      obtain ⟨gapMillis, _, rfl⟩ := lower_session_iff.mp lowered
      simp [Descriptor.isSession, Window.kind]

theorem suits_iff (layout : StoreLayout) {window : Window} {descriptor : Descriptor}
    (lowered : window.lower = .ok descriptor) :
    layout.suits descriptor = true ↔ layout = .any ∨ layout = window.kind.layout := by
  have kind := isSession_of_lower lowered
  cases descriptor with
  | time windows =>
      have time : window.kind.layout = .window := by
        cases found : window.kind <;> simp_all [Descriptor.isSession, Window.Kind.layout]
      rw [time]
      cases layout <;> simp [StoreLayout.suits]
  | session windows =>
      have session : window.kind.layout = .session := by
        rw [kind.mp rfl]
        rfl
      rw [session]
      cases layout <;> simp [StoreLayout.suits]

theorem unsuitable_iff {store : Store} {stream : GroupedStream} {window : Window}
    {descriptor : Descriptor} (lowered : window.lower = .ok descriptor) :
    store.Unsuitable stream window.kind ↔
      ∃ mismatch, store.mismatch? stream descriptor = some mismatch := by
  have suits := suits_iff store.layout lowered
  unfold Store.Unsuitable Store.mismatch?
  split
  · next keys => simp [keys]
  · next keys =>
      split
      · next values => simp [values]
      · next values =>
          split
          · next streamed => simp [streamed]
          · next streamed =>
              split
              · next suited =>
                  rw [suits] at suited
                  simp only [keys, values, streamed, false_or, reduceCtorEq, exists_false,
                    iff_false]
                  rintro ⟨notAny, notOwn⟩
                  exact suited.elim notAny notOwn
              · next unsuited =>
                  rw [suits, not_or] at unsuited
                  simp [unsuited]

theorem respectCap_some (window : Window) (cap : Span) :
    window.respectCap (some cap) = window.extent.2.millis >>= fun millis =>
      if Word.clamp cap.millis < millis then
        .error (.exceedsCap window.extent.1 millis (Word.clamp cap.millis))
      else .ok () :=
  rfl

theorem hasErrors_check {clause : Clause} {options : CheckOptions} {cause : Violation}
    (refused : (do clause.window.validate; clause.window.respectCap options.cap) = .error cause) :
    hasErrors (clause.check options) = true := by
  unfold Clause.check
  rw [findings_of_violation refused]
  split
  · rfl
  · rfl

theorem validate_of_clean {clause : Clause} {options : CheckOptions}
    (clean : hasErrors (clause.check options) = false) : clause.window.validate = .ok () := by
  cases refused : clause.window.validate with
  | ok => rfl
  | error cause =>
      have errors : hasErrors (clause.check options) = true := by
        apply hasErrors_check
        rw [refused]
        rfl
      rw [clean] at errors
      contradiction

section

variable {value aggregate : Type} {clause : Clause} {options : CheckOptions}
  {stream : GroupedStream} {initial : aggregate} {fold : String → value → aggregate → aggregate}
  {store : Store}

theorem lower_outcome (window : Window) :
    (Aggregation.lower window stream initial fold store).outcome =
      Aggregation.build window stream initial fold store := by
  unfold Aggregation.lower
  split
  · next built => exact built.symm
  · next failed => exact failed.symm

theorem plan_of_errors (errors : hasErrors (clause.check options) = true) :
    clause.plan options stream initial fold store =
      { outcome :=
          .error (.ofDiagnostics ((clause.check options).filter Diagnostic.isError)) } := by
  unfold Clause.plan
  rw [List.partition_eq_filter_filter]
  have filled : ((clause.check options).filter Diagnostic.isError).isEmpty = false := by
    rw [hasErrors, List.any_eq_true] at errors
    simpa using errors
  simp only [filled, Bool.false_eq_true, ↓reduceIte]

def warningRecords (found : List Diagnostic) : List LogRecord :=
  (found.filter fun diagnostic => diagnostic.severity = .warning).map fun warning =>
    ⟨.warn, "sw_core::planner", warning.text⟩

theorem warningRecords_eq (found : List Diagnostic) : warningRecords found =
    (found.filter fun diagnostic => !diagnostic.isError).map Diagnostic.warningRecord := by
  have same : (fun diagnostic : Diagnostic => !diagnostic.isError) =
      fun diagnostic => decide (diagnostic.severity = .warning) := by
    funext diagnostic
    cases severity : diagnostic.severity <;> simp [Diagnostic.isError, severity]
  rw [same]
  rfl

theorem plan_of_clean (clean : hasErrors (clause.check options) = false) :
    clause.plan options stream initial fold store =
      { outcome := (Aggregation.lower clause.window stream initial fold store).outcome.mapError
          PlanError.ofLowering
        records := warningRecords (clause.check options) ++
          (Aggregation.lower clause.window stream initial fold store).records } := by
  unfold Clause.plan
  rw [List.partition_eq_filter_filter]
  have empty : (clause.check options).filter Diagnostic.isError = [] := by
    simpa [hasErrors] using clean
  simp only [empty, List.isEmpty_nil, ↓reduceIte, warningRecords_eq]
  rfl

theorem plan_of_unsuitable (clean : hasErrors (clause.check options) = false)
    (unsuitable : store.Unsuitable stream clause.window.kind) :
    ∃ detail, clause.plan options stream initial fold store =
      { outcome := .error ⟨.unsupportedStore, detail⟩
        records := warningRecords (clause.check options) } := by
  obtain ⟨descriptor, lowered⟩ := lower_of_validate (validate_of_clean clean)
  obtain ⟨mismatch, found⟩ := (unsuitable_iff lowered).mp unsuitable
  rw [plan_of_clean clean]
  simp only [Aggregation.lower, Aggregation.build, lowered, found, List.append_nil]
  exact ⟨_, rfl⟩

theorem plan_of_suitable (clean : hasErrors (clause.check options) = false)
    (suitable : ¬ store.Unsuitable stream clause.window.kind) :
    ∃ descriptor, clause.window.lower = .ok descriptor ∧
      let operator : Aggregation value aggregate :=
        { source := stream, descriptor, initial, fold, store }
      clause.plan options stream initial fold store =
        { outcome := .ok operator
          records := warningRecords (clause.check options) ++
            [operator.builtRecord clause.window] } := by
  obtain ⟨descriptor, lowered⟩ := lower_of_validate (validate_of_clean clean)
  have fits : store.mismatch? stream descriptor = none := by
    rw [Option.eq_none_iff_forall_ne_some]
    intro mismatch found
    exact suitable ((unsuitable_iff lowered).mpr ⟨mismatch, found⟩)
  refine ⟨descriptor, lowered, ?_⟩
  rw [plan_of_clean clean]
  simp only [Aggregation.lower, Aggregation.build, lowered, fits]
  rfl

end

/-- A plan fails on the errors of the check, silently; else on a store that does not fit, after
each warning has been logged as one, with its text; else it gives the operator for the lowered
window, and one record more. Lowering itself never fails. -/
theorem plan_outcome {value aggregate : Type} (clause : Clause) (options : CheckOptions)
    (stream : GroupedStream) (initial : aggregate) (fold : String → value → aggregate → aggregate)
    (store : Store) :
    let found := clause.check options
    let plan := clause.plan options stream initial fold store
    let unsuitable := store.Unsuitable stream clause.window.kind
    let errors := found.filter fun diagnostic => diagnostic.severity = .error
    let warnings := found.filter fun diagnostic => diagnostic.severity = .warning
    let warned : List LogRecord :=
      warnings.map fun warning => ⟨.warn, "sw_core::planner", warning.text⟩
    ((hasErrors found = true ↔ ∃ detail, plan.outcome = .error ⟨.windowConfiguration, detail⟩) ∧
      (hasErrors found = true → plan.records = [] ∧ plan.outcome = .error
        ⟨.windowConfiguration, "\n".intercalate (errors.map Diagnostic.text)⟩)) ∧
    (hasErrors found = false →
      (unsuitable ↔ ∃ detail, plan.outcome = .error ⟨.unsupportedStore, detail⟩) ∧
      (unsuitable → plan.records = warned) ∧
      (¬ unsuitable → ∃ operator, plan.outcome = .ok operator ∧
        operator.source = stream ∧ operator.store = store ∧
        operator.initial = initial ∧ operator.fold = fold ∧
        clause.window.lower = .ok operator.descriptor ∧
        (operator.builtRecord clause.window).level = .debug ∧
        plan.records = warned ++ [operator.builtRecord clause.window])) ∧
    ∀ detail, plan.outcome ≠ .error ⟨.lowering, detail⟩ := by
  intro found plan unsuitable errors warnings warned
  cases unclean : hasErrors found with
  | true =>
      have shape : plan = _ := plan_of_errors unclean
      rw [shape]
      refine ⟨⟨⟨?_, fun _ => rfl⟩, fun _ => ⟨rfl, rfl⟩⟩, ?_, ?_⟩
      · intro _
        exact ⟨_, rfl⟩
      · intro clean
        contradiction
      · simp [PlanError.ofDiagnostics]
  | false =>
      by_cases fits : unsuitable
      · obtain ⟨detail, shape⟩ : ∃ detail, plan = _ := plan_of_unsuitable unclean fits
        rw [shape]
        refine ⟨⟨by simp, by simp⟩, ?_, by simp⟩
        intro _
        refine ⟨by simp [fits], fun _ => rfl, ?_⟩
        intro fit
        contradiction
      · obtain ⟨descriptor, lowered, shape⟩ : ∃ descriptor, _ ∧ plan = _ :=
          plan_of_suitable unclean fits
        rw [shape]
        refine ⟨⟨by simp, by simp⟩, ?_, by simp⟩
        intro _
        refine ⟨by simp [fits], ?_, ?_⟩
        · intro unfit
          contradiction
        · intro _
          exact ⟨_, rfl, rfl, rfl, rfl, rfl, lowered, rfl, rfl⟩

end StreamWindow
