import Mathlib.Data.Finset.Card
import Mathlib.Data.List.Forall2
import StreamWindow.Alike
import StreamWindow.Explanation
import StreamWindow.Proofs.Planning
import StreamWindow.Proofs.Validity

/-!
Clauses that are alike. No pass tells them apart: where its answers differ, each answer names a
duration of its own clause.
-/

namespace StreamWindow

inductive AlikeWindows : Window → Window → Prop
  | tumbling {size otherSize : Duration} (sized : size.exactMillis = otherSize.exactMillis) :
      AlikeWindows (.tumbling size) (.tumbling otherSize)
  | hopping {size advance otherSize otherAdvance : Duration}
      (sized : size.exactMillis = otherSize.exactMillis)
      (advanced : advance.exactMillis = otherAdvance.exactMillis) :
      AlikeWindows (.hopping size advance) (.hopping otherSize otherAdvance)
  | session {gap otherGap : Duration} (spaced : gap.exactMillis = otherGap.exactMillis) :
      AlikeWindows (.session gap) (.session otherGap)

inductive OwnOverflow (first second : Window) : Violation → Violation → Prop
  | intro {measure : Measure} {own other : Duration} (ofFirst : first.duration? measure = some own)
      (ofSecond : second.duration? measure = some other) :
      OwnOverflow first second (.overflow own) (.overflow other)

inductive SameViolation (first second : Window) : Violation → Violation → Prop
  | overflow {cause other : Violation} (own : OwnOverflow first second cause other) :
      SameViolation first second cause other
  | same {cause : Violation} (bounded : ∀ duration, cause ≠ .overflow duration) :
      SameViolation first second cause cause

inductive Agree {α : Type} (related : Violation → Violation → Prop) :
    Except Violation α → Except Violation α → Prop
  | ok (result : α) : Agree related (.ok result) (.ok result)
  | error {cause other : Violation} (alike : related cause other) :
      Agree related (.error cause) (.error other)

inductive SameIssue (first second : Window) : Issue → Issue → Prop
  | violation {cause other : Violation} (alike : SameViolation first second cause other) :
      SameIssue first second (.violation cause) (.violation other)
  | likeTumbling {size otherSize : Duration} (ofFirst : first.duration? .size = some size)
      (ofSecond : second.duration? .size = some otherSize) :
      SameIssue first second (.likeTumbling size) (.likeTumbling otherSize)
  | unevenAdvance (sizeMillis advanceMillis : UInt64) :
      SameIssue first second (.unevenAdvance sizeMillis advanceMillis)
        (.unevenAdvance sizeMillis advanceMillis)

/-- Diagnostics of two clauses that differ in nothing but what is each clause's own. -/
structure SameDiagnostic (first second : Clause) (found other : Diagnostic) : Prop where
  severity : found.severity = other.severity
  issue : SameIssue first.window second.window found.issue other.issue
  located : found.location = first.location
  otherLocated : other.location = second.location

theorem Window.beq_iff_alike {first second : Window} :
    (first == second) = true ↔ AlikeWindows first second := by
  rw [Window.beq_iff]
  constructor
  · intro same
    cases first <;> cases second <;> simp only [Window.lengths, Prod.mk.injEq, List.cons.injEq,
      reduceCtorEq, and_true, true_and, false_and] at same
    case tumbling.tumbling => exact .tumbling same
    case hopping.hopping => exact .hopping same.1 same.2
    case session.session => exact .session same
  · intro alike
    cases alike with
    | tumbling sized => rw [Window.lengths, Window.lengths, sized]
    | hopping sized advanced => rw [Window.lengths, Window.lengths, sized, advanced]
    | session spaced => rw [Window.lengths, Window.lengths, spaced]

namespace Agree

variable {α β : Type} {related weaker : Violation → Violation → Prop}
  {left right : Except Violation α}

theorem mono (weaken : ∀ cause other, related cause other → weaker cause other)
    (agree : Agree related left right) : Agree weaker left right := by
  cases agree with
  | ok result => exact .ok result
  | error alike => exact .error (weaken _ _ alike)

theorem bind {next otherNext : α → Except Violation β} (agree : Agree related left right)
    (later : ∀ result, Agree related (next result) (otherNext result)) :
    Agree related (left >>= next) (right >>= otherNext) := by
  cases agree with
  | ok result => exact later result
  | error alike => exact .error alike

theorem refusal {first second : Window} {condition : Prop} [Decidable condition]
    {cause : Violation} {result : α} (bounded : ∀ duration, cause ≠ .overflow duration) :
    Agree (SameViolation first second) (if condition then .error cause else .ok result)
      (if condition then .error cause else .ok result) := by
  split
  · exact .error (.same bounded)
  · exact .ok result

end Agree

section

variable {first second : Window} {own other : Duration}

theorem millis?_alike (same : own.exactMillis = other.exactMillis) :
    own.millis? = other.millis? := by
  rw [Duration.millis?, Duration.millis?, same]

theorem isZero_alike (same : own.exactMillis = other.exactMillis) : own.isZero = other.isZero := by
  rw [Bool.eq_iff_iff, Duration.isZero_iff, Duration.isZero_iff, same]

theorem millis_agree (measure : Measure) (same : own.exactMillis = other.exactMillis)
    (ofFirst : first.duration? measure = some own)
    (ofSecond : second.duration? measure = some other) :
    Agree (OwnOverflow first second) own.millis other.millis := by
  unfold Duration.millis
  rw [millis?_alike same]
  cases other.millis? with
  | some millis => exact .ok millis
  | none => exact .error ⟨ofFirst, ofSecond⟩

theorem millis_agree_same (measure : Measure) (same : own.exactMillis = other.exactMillis)
    (ofFirst : first.duration? measure = some own)
    (ofSecond : second.duration? measure = some other) :
    Agree (SameViolation first second) own.millis other.millis :=
  (millis_agree measure same ofFirst ofSecond).mono fun _ _ => .overflow

theorem requirePositive_agree (measure : Measure) (same : own.exactMillis = other.exactMillis) :
    Agree (SameViolation first second) (Window.requirePositive measure own)
      (Window.requirePositive measure other) := by
  unfold Window.requirePositive
  rw [isZero_alike same]
  exact .refusal (by simp)

theorem validate_agree (alike : AlikeWindows first second) :
    Agree (SameViolation first second) first.validate second.validate := by
  cases alike with
  | tumbling sized =>
      exact (millis_agree_same .size sized rfl rfl).bind fun _ =>
        requirePositive_agree .size sized
  | hopping sized advanced =>
      refine (millis_agree_same .size sized rfl rfl).bind fun sizeMillis => ?_
      refine (millis_agree_same .advance advanced rfl rfl).bind
        fun advanceMillis => ?_
      refine (requirePositive_agree .size sized).bind fun _ => ?_
      refine (requirePositive_agree .advance advanced).bind fun _ => ?_
      exact .refusal (by simp)
  | session spaced =>
      exact (millis_agree_same .gap spaced rfl rfl).bind fun _ =>
        requirePositive_agree .gap spaced

theorem extent_alike (alike : AlikeWindows first second) :
    first.extent.1 = second.extent.1 ∧
      first.extent.2.exactMillis = second.extent.2.exactMillis := by
  cases alike with
  | tumbling sized => exact ⟨rfl, sized⟩
  | hopping sized advanced => exact ⟨rfl, sized⟩
  | session spaced => exact ⟨rfl, spaced⟩

theorem respectCap_agree (alike : AlikeWindows first second) (cap : Option Span) :
    Agree (SameViolation first second) (first.respectCap cap) (second.respectCap cap) := by
  cases cap with
  | none => exact .ok ()
  | some cap =>
      obtain ⟨measured, same⟩ := extent_alike alike
      have ofFirst := duration?_extent first
      have ofSecond := duration?_extent second
      rw [← measured] at ofSecond
      rw [respectCap_some, respectCap_some, measured]
      refine (millis_agree_same _ same ofFirst ofSecond).bind fun millis => ?_
      exact .refusal (by simp)

theorem lower_agree (alike : AlikeWindows first second) :
    Agree (OwnOverflow first second) first.lower second.lower := by
  cases alike with
  | tumbling sized =>
      exact (millis_agree .size sized rfl rfl).bind fun _ => .ok _
  | hopping sized advanced =>
      exact (millis_agree .size sized rfl rfl).bind fun _ =>
        (millis_agree .advance advanced rfl rfl).bind fun _ => .ok _
  | session spaced =>
      exact (millis_agree .gap spaced rfl rfl).bind fun _ => .ok _

theorem measure_agree (alike : AlikeWindows first second) :
    Agree (OwnOverflow first second) first.measure second.measure := by
  cases alike with
  | tumbling sized =>
      exact (millis_agree .size sized rfl rfl).bind fun _ => .ok _
  | hopping sized advanced =>
      exact (millis_agree .size sized rfl rfl).bind fun _ =>
        (millis_agree .advance advanced rfl rfl).bind fun _ => .ok _
  | session spaced =>
      exact (millis_agree .gap spaced rfl rfl).bind fun _ => .ok _

end

/-! Checking, explaining and planning. -/

section

variable {first second : Clause}

theorem hints_alike {window other : Window} (alike : AlikeWindows window other) :
    List.Forall₂ (SameIssue window other) window.hints other.hints := by
  cases alike with
  | tumbling sized => exact .nil
  | @hopping size advance otherSize otherAdvance sized advanced =>
      simp only [Window.hints, millis?_alike sized, millis?_alike advanced]
      cases otherSize.millis? with
      | none => exact .nil
      | some sizeMillis =>
          cases otherAdvance.millis? with
          | none => exact .nil
          | some advanceMillis =>
              dsimp only
              split
              · exact .nil
              · split
                · exact .cons (.likeTumbling rfl rfl) .nil
                · split
                  · exact .nil
                  · exact .cons (.unevenAdvance sizeMillis advanceMillis) .nil
  | session spaced => exact .nil

theorem findings_alike (alike : AlikeWindows first.window second.window) (cap : Option Span) :
    List.Forall₂ (SameDiagnostic first second) (first.findings cap) (second.findings cap) := by
  have checked := (validate_agree alike).bind fun _ => respectCap_agree alike cap
  generalize left : (do first.window.validate; first.window.respectCap cap) = outcome at checked
  generalize right : (do second.window.validate; second.window.respectCap cap) = other at checked
  cases checked with
  | ok result =>
      rw [findings_of_passed left, findings_of_passed right]
      refine List.rel_map ?_ (hints_alike alike)
      intro issue other same
      exact ⟨rfl, same, rfl, rfl⟩
  | error same =>
      rw [findings_of_violation left, findings_of_violation right]
      exact .cons ⟨rfl, .violation same, rfl, rfl⟩ .nil

theorem check_alike (alike : AlikeWindows first.window second.window) (options : CheckOptions) :
    List.Forall₂ (SameDiagnostic first second) (first.check options) (second.check options) := by
  have found := findings_alike alike options.cap
  unfold Clause.check
  split
  · refine List.rel_map ?_ found
    intro diagnostic other same
    exact ⟨rfl, same.issue, same.located, same.otherLocated⟩
  · exact found

theorem hasErrors_alike {found other : List Diagnostic}
    (same : List.Forall₂ (SameDiagnostic first second) found other) :
    hasErrors found = hasErrors other := by
  induction same with
  | nil => rfl
  | cons same _ ih =>
      simp only [hasErrors, List.any_cons, Diagnostic.isError, same.severity] at ih ⊢
      rw [ih]

theorem explain_agree (alike : AlikeWindows first.window second.window) :
    Agree (OwnOverflow first.window second.window) (Explanation.measurements <$> first.explain)
      (Explanation.measurements <$> second.explain) := by
  have measured (clause : Clause) :
      Explanation.measurements <$> clause.explain = clause.window.measure := by
    simp only [Clause.explain, map_bind, map_pure, bind_pure]
  rw [measured, measured]
  exact measure_agree alike

end

section

variable {value aggregate : Type} {first second : Clause} {stream : GroupedStream}
  {initial : aggregate} {fold : String → value → aggregate → aggregate} {store : Store}

theorem build_alike {window otherWindow : Window} (alike : AlikeWindows window otherWindow) :
    ((Aggregation.build window stream initial fold store).mapError
        PlanError.ofLowering).mapError PlanError.reason =
      ((Aggregation.build otherWindow stream initial fold store).mapError
        PlanError.ofLowering).mapError PlanError.reason := by
  have lowered := lower_agree alike
  unfold Aggregation.build
  generalize window.lower = left at lowered ⊢
  generalize otherWindow.lower = right at lowered ⊢
  cases lowered with
  | ok descriptor => rfl
  | error overflow => rfl

theorem plan_alike (alike : AlikeWindows first.window second.window) (options : CheckOptions) :
    (first.plan options stream initial fold store).outcome.mapError PlanError.reason =
      (second.plan options stream initial fold store).outcome.mapError PlanError.reason := by
  have same := hasErrors_alike (check_alike alike options)
  cases errors : hasErrors (first.check options) with
  | true =>
      rw [plan_of_errors errors, plan_of_errors (same.symm.trans errors)]
      rfl
  | false =>
      rw [plan_of_clean errors, plan_of_clean (same.symm.trans errors)]
      simp only [lower_outcome]
      exact build_alike alike

end

/-! Counting clauses. -/

section

variable {α β : Type} [BEq α] [Hashable α] [EquivBEq α] [LawfulHashable α] [DecidableEq β]
  {lengths : α → β}

theorem distinctCount_eq (alike : ∀ value other : α, (value == other) = true ↔
    lengths value = lengths other) (values : List α) :
    distinctCount values = (values.map lengths).toFinset.card := by
  -- A hash set takes the values in order, so the last one is the one that is added.
  induction values using List.reverseRecOn with
  | nil => rfl
  | append_singleton values value ih =>
      have extended : (Std.HashSet.ofList (values ++ [value])) =
          (Std.HashSet.ofList values).insert value := by
        rw [Std.HashSet.ofList_eq_insertMany_empty, Std.HashSet.insertMany_append,
          Std.HashSet.insertMany_list_singleton, Std.HashSet.ofList_eq_insertMany_empty]
      have kept : value ∈ Std.HashSet.ofList values ↔
          lengths value ∈ (values.map lengths).toFinset := by
        rw [Std.HashSet.mem_ofList, List.contains_iff_exists_mem_beq, List.mem_toFinset,
          List.mem_map]
        simp only [alike, @eq_comm _ (lengths value)]
      have lengthsExtended : ((values ++ [value]).map lengths).toFinset =
          insert (lengths value) (values.map lengths).toFinset := by
        rw [List.map_append, List.toFinset_append, Finset.union_comm]
        rfl
      unfold distinctCount at ih ⊢
      rw [extended, Std.HashSet.size_insert, lengthsExtended, Finset.card_insert_eq_ite, ih]
      simp only [kept]

end

/-- Being alike is an equivalence, decided by the kind and the exact lengths, and no pass tells
apart clauses that are alike. They hash alike, a check finds the same in both, lowering and
explaining either give the same for both or overflow for both, and plans have the same outcome.
A hash set keeps one clause for each kind and lengths. -/
theorem clause_congruence :
    Equivalence (fun first second : Clause => (first == second) = true) ∧
    (∀ first second : Clause,
      (first == second) = true ↔ first.window.lengths = second.window.lengths) ∧
    (∀ first second : Clause, (first == second) = true →
      hash first = hash second ∧
      (∀ options, List.Forall₂ (SameDiagnostic first second) (first.check options)
        (second.check options)) ∧
      Agree (OwnOverflow first.window second.window) first.window.lower second.window.lower ∧
      Agree (OwnOverflow first.window second.window) (Explanation.measurements <$> first.explain)
        (Explanation.measurements <$> second.explain) ∧
      ∀ (value aggregate : Type) (options : CheckOptions) (stream : GroupedStream)
        (initial : aggregate) (fold : String → value → aggregate → aggregate) (store : Store),
        (first.plan options stream initial fold store).outcome.mapError PlanError.reason =
          (second.plan options stream initial fold store).outcome.mapError PlanError.reason) ∧
    ∀ clauses : List Clause, distinctCount clauses =
      (clauses.map fun clause => clause.window.lengths).toFinset.card := by
  refine ⟨⟨fun _ => BEq.rfl, BEq.symm, BEq.trans⟩, Clause.beq_iff, ?_,
    distinctCount_eq Clause.beq_iff⟩
  intro first second same
  have alike := Window.beq_iff_alike.mp same
  exact ⟨hash_eq same, check_alike alike, lower_agree alike, explain_agree alike,
    fun _ _ options _ _ _ _ => plan_alike alike options⟩

end StreamWindow
