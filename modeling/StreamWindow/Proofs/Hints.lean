import StreamWindow.Proofs.Explaining
import StreamWindow.Proofs.RoundTrip

/-!
What hints say about a clause, held against the windows that it lowers to.
-/

namespace StreamWindow

theorem check_of_validate {clause : Clause} (valid : clause.window.validate = .ok ()) :
    clause.check {} =
      clause.window.hints.map fun issue => ⟨.warning, issue, clause.location⟩ := by
  have passed : (do clause.window.validate; clause.window.respectCap none) = .ok () := by
    rw [valid]
    rfl
  exact findings_of_passed passed

theorem hints_not_hopping {window : Window} (other : window.kind ≠ .hopping) :
    window.hints = [] := by
  cases window with
  | tumbling size => rfl
  | hopping size advance => exact absurd rfl other
  | session gap => rfl

theorem hints_hopping {size advance : Duration} {windows : TimeWindows}
    (lowered : (Window.hopping size advance).lower = .ok (.time windows))
    (advanced : windows.advance ≠ 0) :
    (Window.hopping size advance).hints =
      if windows.isTumbling then [.likeTumbling size]
      else if windows.advance.toNat ∣ windows.size.toNat then []
      else [.unevenAdvance windows.size windows.advance] := by
  obtain ⟨sizeMillis, sized, advanceMillis, counted, same⟩ := lower_hopping_iff.mp lowered
  obtain rfl : windows = ⟨sizeMillis, advanceMillis⟩ := Descriptor.time.inj same
  have sizeFits := (Duration.millis?_eq_some_iff _ _).mpr (Duration.millis_eq_ok_iff.mp sized)
  have advanceFits := (Duration.millis?_eq_some_iff _ _).mpr (Duration.millis_eq_ok_iff.mp counted)
  have nonzero : advanceMillis ≠ 0 := advanced
  have tumbling : (⟨sizeMillis, advanceMillis⟩ : TimeWindows).isTumbling = true ↔
      advanceMillis = sizeMillis := by
    rw [TimeWindows.isTumbling, beq_iff_eq, eq_comm]
  have even : sizeMillis % advanceMillis = 0 ↔ advanceMillis.toNat ∣ sizeMillis.toNat := by
    rw [← UInt64.toNat_inj, UInt64.toNat_mod, UInt64.toNat_zero, Nat.dvd_iff_mod_eq_zero]
  simp only [Window.hints, sizeFits, advanceFits, if_neg nonzero]
  by_cases same : advanceMillis = sizeMillis
  · rw [if_pos same, if_pos (tumbling.mpr same)]
  · rw [if_neg same, if_neg (mt tumbling.mp same)]
    by_cases whole : sizeMillis % advanceMillis = 0
    · rw [if_pos whole, if_pos (even.mp whole)]
    · rw [if_neg whole, if_neg (mt even.mpr whole)]

/-! The texts of warnings, and what they quote. -/

def equivalenceText (quoted : String) : String :=
  s!"advance equals window size; equivalent to `{quoted}`"

def unevenText (windows : TimeWindows) (fewer more : UInt64) : String :=
  s!"window size {windows.size}ms is not a multiple of advance {windows.advance}ms; " ++
    s!"records fall into {fewer} or {more} windows depending on their timestamp"

theorem number_text_injective {value other : UInt64} {rest otherRest : String}
    (same : toString value ++ (" " ++ rest) = toString other ++ (" " ++ otherRest)) :
    value = other ∧ rest = otherRest := by
  -- Texts of numbers vary in length, so reading has to tell where the digits end.
  have read (number : UInt64) (after : String) :
      integer? (toString number ++ (" " ++ after)).toList =
        some (number, (" " ++ after).toList) := by
    have chars : (" " ++ after).toList = ' ' :: after.toList := by simp
    rw [String.toList_append, chars, integer?_eq_some_iff]
    refine ⟨number_text ?_, by simp⟩
    rintro next ⟨rfl⟩
    decide
  have found := (read value rest).symm.trans (same ▸ read other otherRest)
  obtain ⟨numbers, rests⟩ := Prod.mk.inj (Option.some.inj found)
  exact ⟨numbers, (String.append_right_inj " ").mp (String.toList_inj.mp rests)⟩

theorem equivalenceText_eq (quoted : String) :
    equivalenceText quoted =
      "a" ++ ("dvance equals window size; equivalent to `" ++ (quoted ++ "`")) := by
  simp only [← String.append_assoc]
  rfl

theorem unevenText_eq (windows : TimeWindows) (fewer more : UInt64) :
    unevenText windows fewer more =
      "w" ++ ("indow size " ++ (toString windows.size ++ ("ms is not a multiple of advance " ++
        (toString windows.advance ++ ("ms; " ++ ("records fall into " ++ (toString fewer ++
          (" " ++ ("or " ++ (toString more ++
            (" " ++ "windows depending on their timestamp"))))))))))) := by
  unfold unevenText
  simp only [String.append_assoc]
  rfl

theorem equivalenceText_injective {quoted other : String}
    (same : equivalenceText quoted = equivalenceText other) : quoted = other := by
  simp only [equivalenceText_eq, String.append_right_inj, String.append_left_inj] at same
  exact same

theorem unevenText_injective {windows : TimeWindows} {fewer more otherFewer otherMore : UInt64}
    (same : unevenText windows fewer more = unevenText windows otherFewer otherMore) :
    fewer = otherFewer ∧ more = otherMore := by
  simp only [unevenText_eq, String.append_right_inj] at same
  obtain ⟨fewerSame, later⟩ := number_text_injective same
  obtain ⟨moreSame, _⟩ := number_text_injective ((String.append_right_inj _).mp later)
  exact ⟨fewerSame, moreSame⟩

theorem equivalenceText_ne_unevenText {quoted : String} {windows : TimeWindows}
    {fewer more : UInt64} : equivalenceText quoted ≠ unevenText windows fewer more := by
  intro same
  rw [equivalenceText_eq, unevenText_eq] at same
  have chars := congrArg String.toList same
  simp at chars

def Clause.WarnsEquivalent (clause : Clause) (quoted : String) : Prop :=
  ∃ found ∈ clause.check {}, found.severity = .warning ∧ found.message = equivalenceText quoted

def Clause.WarnsUneven (clause : Clause) (windows : TimeWindows) (fewer more : UInt64) : Prop :=
  ∃ found ∈ clause.check {}, found.severity = .warning ∧
    found.message = unevenText windows fewer more

theorem likeTumbling_message (size : Duration) :
    (Issue.likeTumbling size).message = equivalenceText (Window.tumbling size).text :=
  rfl

theorem unevenAdvance_message (windows : TimeWindows) :
    (Issue.unevenAdvance windows.size windows.advance).message =
      unevenText windows (windows.size / windows.advance)
        (Word.stepsToCover windows.size windows.advance) := by
  unfold Issue.message unevenText
  simp only [String.append_assoc]

theorem dvd_of_isTumbling {windows : TimeWindows} (tumbling : windows.isTumbling = true) :
    windows.advance.toNat ∣ windows.size.toNat := by
  rw [beq_iff_eq.mp tumbling]

section

variable {location : Option Location} {size advance : Duration} {windows : TimeWindows}
  (valid : (Window.hopping size advance).validate = .ok ())
  (lowered : (Window.hopping size advance).lower = .ok (.time windows))
  (advanced : windows.advance ≠ 0)

include valid lowered advanced

theorem check_hopping :
    Clause.check ⟨.hopping size advance, location⟩ {} =
      if windows.isTumbling then [⟨.warning, .likeTumbling size, location⟩]
      else if windows.advance.toNat ∣ windows.size.toNat then []
      else [⟨.warning, .unevenAdvance windows.size windows.advance, location⟩] := by
  rw [check_of_validate valid, hints_hopping lowered advanced]
  split
  · rfl
  · split
    · rfl
    · rfl

theorem warnsEquivalent_iff {quoted : String} :
    Clause.WarnsEquivalent ⟨.hopping size advance, location⟩ quoted ↔
      windows.isTumbling = true ∧ quoted = (Window.tumbling size).text := by
  unfold Clause.WarnsEquivalent
  rw [check_hopping valid lowered advanced]
  by_cases tumbling : windows.isTumbling = true
  · rw [if_pos tumbling]
    simp only [List.mem_singleton, exists_eq_left, true_and, tumbling, Diagnostic.message,
      likeTumbling_message]
    constructor
    · intro same
      exact (equivalenceText_injective same).symm
    · rintro rfl
      rfl
  · rw [if_neg tumbling]
    constructor
    · rintro ⟨found, member, _, told⟩
      split at member
      · contradiction
      · rw [List.mem_singleton.mp member, Diagnostic.message, unevenAdvance_message] at told
        exact absurd told.symm equivalenceText_ne_unevenText
    · rintro ⟨same, _⟩
      contradiction

theorem warnsUneven_iff {fewer more : UInt64} :
    Clause.WarnsUneven ⟨.hopping size advance, location⟩ windows fewer more ↔
      ¬ windows.advance.toNat ∣ windows.size.toNat ∧ fewer = windows.size / windows.advance ∧
        more = Word.stepsToCover windows.size windows.advance := by
  unfold Clause.WarnsUneven
  rw [check_hopping valid lowered advanced]
  by_cases even : windows.advance.toNat ∣ windows.size.toNat
  · rw [if_pos even]
    constructor
    · rintro ⟨found, member, _, told⟩
      split at member
      · rw [List.mem_singleton.mp member, Diagnostic.message, likeTumbling_message] at told
        exact absurd told equivalenceText_ne_unevenText
      · contradiction
    · rintro ⟨uneven, _⟩
      contradiction
  · rw [if_neg (mt dvd_of_isTumbling even), if_neg even]
    simp only [List.mem_singleton, exists_eq_left, true_and, even, not_false_eq_true,
      Diagnostic.message, unevenAdvance_message]
    constructor
    · intro same
      obtain ⟨fewest, most⟩ := unevenText_injective same
      exact ⟨fewest.symm, most.symm⟩
    · rintro ⟨rfl, rfl⟩
      rfl

end

theorem quoted_tumbling {size advance : Duration} {windows : TimeWindows}
    (valid : (Window.hopping size advance).validate = .ok ())
    (lowered : (Window.hopping size advance).lower = .ok (.time windows))
    (tumbling : windows.isTumbling = true) :
    ∃ again, Clause.read (Window.tumbling size).text = .ok again ∧
      again.window.kind = .tumbling ∧ again.check {} = [] ∧
      again.window.lower = .ok (.time windows) := by
  obtain ⟨_, _, sized, _, positive, _⟩ := validate_hopping_iff.mp valid
  obtain ⟨sizeMillis, counted, advanceMillis, _, same⟩ := lower_hopping_iff.mp lowered
  obtain rfl : windows = ⟨sizeMillis, advanceMillis⟩ := Descriptor.time.inj same
  obtain rfl : sizeMillis = advanceMillis := beq_iff_eq.mp tumbling
  refine ⟨_, read_text _, rfl, ?_, lower_tumbling_iff.mpr ⟨_, counted, rfl⟩⟩
  rw [check_of_validate (validate_tumbling_iff.mpr ⟨_, sized, positive⟩)]
  rfl

open TimeWindows in
/-- Explaining succeeds where lowering does, and a valid clause is explained by the measurements of
the windows that it lowers to. Only hopping clauses get warnings. One says that the windows are
tumbling, which they are, and the clause that it quotes lowers to them; the other says that the
advance does not divide the size, which it does not, and quotes the two numbers of windows that
records fall into. -/
theorem hints_describe_windows (clause : Clause) :
    ((∃ explanation, clause.explain = .ok explanation) ↔
      ∃ descriptor, clause.window.lower = .ok descriptor) ∧
    (clause.window.validate = .ok () → ∃ descriptor, clause.window.lower = .ok descriptor ∧
      clause.explain = .ok ⟨clause, descriptor.measurements⟩ ∧
      (clause.window.kind ≠ .hopping → clause.check {} = []) ∧
      (clause.window.kind = .hopping → ∃ windows, descriptor = .time windows ∧
        ((∃ quoted, clause.WarnsEquivalent quoted) ↔ windows.isTumbling = true) ∧
        (∀ quoted, clause.WarnsEquivalent quoted → ∃ again, Clause.read quoted = .ok again ∧
          again.window.kind = .tumbling ∧ again.check {} = [] ∧
          again.window.lower = .ok descriptor) ∧
        ((∃ fewer more, clause.WarnsUneven windows fewer more) ↔
          ¬ windows.advance.toNat ∣ windows.size.toNat) ∧
        (∀ fewer more, clause.WarnsUneven windows fewer more →
          (∀ timestamp : UInt64, windows.size.toNat - 1 ≤ timestamp.toNat →
            timestamp.toNat < Word.largest →
            (windows.windowsFor timestamp).length = fewer.toNat ∨
              (windows.windowsFor timestamp).length = more.toNat) ∧
          (∃ timestamp : UInt64, timestamp.toNat < Word.largest ∧
            (windows.windowsFor timestamp).length = fewer.toNat) ∧
          ∃ timestamp : UInt64, timestamp.toNat < Word.largest ∧
            (windows.windowsFor timestamp).length = more.toNat) ∧
        (windows.isTumbling = false → windows.advance.toNat ∣ windows.size.toNat →
          clause.check {} = []))) := by
  refine ⟨explain_iff_lower clause, ?_⟩
  intro valid
  obtain ⟨descriptor, lowered, explained⟩ := explain_of_validate valid
  refine ⟨descriptor, lowered, explained, ?_, ?_⟩
  · intro other
    rw [check_of_validate valid, hints_not_hopping other]
    rfl
  · intro hopping
    obtain ⟨window, location⟩ := clause
    obtain ⟨size, advance, rfl⟩ := Window.kind_eq_hopping hopping
    obtain ⟨windows, same, advanced, overlap⟩ := time_of_validate valid nofun
    obtain rfl : descriptor = .time windows := Except.ok.inj (lowered.symm.trans same)
    refine ⟨windows, rfl, ?_, ?_, ?_, ?_, ?_⟩
    · simp only [warnsEquivalent_iff valid lowered advanced, exists_and_left, exists_eq, and_true]
    · intro quoted warns
      obtain ⟨tumbling, rfl⟩ := (warnsEquivalent_iff valid lowered advanced).mp warns
      exact quoted_tumbling valid lowered tumbling
    · simp only [warnsUneven_iff valid lowered advanced, exists_and_left, exists_eq, and_true]
    · intro fewer more warns
      obtain ⟨_, rfl, rfl⟩ := (warnsUneven_iff valid lowered advanced).mp warns
      rw [UInt64.toNat_div, Word.toNat_stepsToCover (advance_positive advanced)]
      refine ⟨?_, exists_fewest_windows advanced overlap, exists_most_windows advanced⟩
      intro timestamp late early
      exact length_windowsFor_settled advanced overlap late early
    · intro notTumbling even
      rw [check_hopping valid lowered advanced, notTumbling, if_pos even]
      rfl

end StreamWindow
