import StreamWindow.Configuration.Decode
import StreamWindow.Proofs.Amounts

/-!
The written form of a span. It is the amount in the longest unit that measures the whole
milliseconds evenly, reading takes it back to these, and so it is the one text among all that
denote the same length that writing gives.
-/

namespace StreamWindow

theorem le_of_find? {units : List TimeUnit} {measures : TimeUnit → Bool} {found : TimeUnit}
    (descending : units.Pairwise fun longer shorter => shorter.millis ≤ longer.millis)
    (chosen : units.find? measures = some found) {other : TimeUnit} (member : other ∈ units)
    (measured : measures other = true) : other.millis ≤ found.millis := by
  induction units with
  | nil => contradiction
  | cons unit units ih =>
      obtain ⟨longest, descending⟩ := List.pairwise_cons.mp descending
      rw [List.find?_cons] at chosen
      rcases List.mem_cons.mp member with rfl | later
      · rw [measured] at chosen
        obtain rfl := Option.some.inj chosen
        exact Nat.le_refl _
      · split at chosen
        · obtain rfl := Option.some.inj chosen
          exact longest other later
        · exact ih descending chosen later

namespace HumanDuration

/-! Writing. -/

def evenUnit (millis : Nat) : TimeUnit :=
  ([.days, .hours, .minutes, .seconds].find? fun unit => millis % unit.millis = 0).getD
    .milliseconds

theorem evenUnit_eq (millis : Nat) : evenUnit millis =
    if millis % 86400000 = 0 then .days
    else if millis % 3600000 = 0 then .hours
    else if millis % 60000 = 0 then .minutes
    else if millis % 1000 = 0 then .seconds
    else .milliseconds := by
  simp only [evenUnit, List.find?, TimeUnit.millis]
  grind

theorem evenUnit_dvd (millis : Nat) : (evenUnit millis).millis ∣ millis := by
  unfold evenUnit
  cases chosen : [TimeUnit.days, .hours, .minutes, .seconds].find?
      fun unit => millis % unit.millis = 0 with
  | none => exact Nat.one_dvd millis
  | some unit =>
      have even := List.find?_some chosen
      rw [decide_eq_true_eq] at even
      exact Nat.dvd_of_mod_eq_zero even

theorem le_evenUnit {millis : Nat} {other : TimeUnit} (even : other.millis ∣ millis) :
    other.millis ≤ (evenUnit millis).millis := by
  have measured : decide (millis % other.millis = 0) = true := by
    rw [decide_eq_true_eq]
    exact Nat.mod_eq_zero_of_dvd even
  have descending : [TimeUnit.days, .hours, .minutes, .seconds].Pairwise
      fun longer shorter => shorter.millis ≤ longer.millis := by decide
  have listed : other ∈ [TimeUnit.days, .hours, .minutes, .seconds] ∨ other = .milliseconds := by
    cases other <;> decide
  rcases listed with member | rfl
  · unfold evenUnit
    cases chosen : [TimeUnit.days, .hours, .minutes, .seconds].find?
        fun unit => millis % unit.millis = 0 with
    | none => exact absurd measured (List.find?_eq_none.mp chosen other member)
    | some unit => exact le_of_find? descending chosen member measured
  · exact TimeUnit.millis_pos _

/-- Of the ways to write a length, that in the longest unit; every unit measures nothing, which is
written in seconds. -/
structure Normal (length number : Nat) (unit : TimeUnit) : Prop where
  exact : number * unit.millis = length
  longest : 0 < length → ∀ other : TimeUnit, other.millis ∣ length → other.millis ≤ unit.millis
  nothing : length = 0 → unit = .seconds

theorem text_evenUnit {span : Span} (positive : span.millis ≠ 0) : text span =
    toString (span.millis / (evenUnit span.millis).millis) ++ (evenUnit span.millis).symbol := by
  rw [evenUnit_eq, text, if_neg positive]
  iterate 4
    split
    · rfl
  rw [TimeUnit.millis, Nat.div_one]
  rfl

theorem text_eq (span : Span) : ∃ number unit,
    text span = toString number ++ unit.symbol ∧ Normal span.millis number unit := by
  by_cases zero : span.millis = 0
  · have written : text span = "0s" := if_pos zero
    rw [written, zero]
    exact ⟨0, .seconds, rfl, rfl, fun positive => absurd positive (Nat.lt_irrefl 0), fun _ => rfl⟩
  · rw [text_evenUnit zero]
    have even := Nat.div_mul_cancel (evenUnit_dvd span.millis)
    exact ⟨_, evenUnit span.millis, rfl, even, fun _ _ => le_evenUnit, fun same => absurd same zero⟩

theorem text_congr {first second : Span} (same : first.millis = second.millis) :
    text first = text second := by
  unfold text
  rw [same]

/-! Reading what is written. -/

theorem amount_text (number : Nat) (unit : TimeUnit) :
    Amount number unit (toString number ++ unit.symbol).toList := by
  have digits : (toString number).toList = Nat.toDigits 10 number := Nat.toList_repr
  refine ⟨Nat.toDigits 10 number, ⟨?_, Nat.toDigits_ne_nil, ?_, ?_⟩, ?_⟩
  · rw [String.toList_append, digits]
  · exact fun digit member => Nat.isDigit_of_mem_toDigits (by decide) (by decide) member
  · exact fun next head => (symbol_apart (List.mem_of_mem_head? head)).1
  · exact Nat.ofDigitChars_ten_toDigits

theorem spelled_text (number : Nat) (unit : TimeUnit) :
    Spelled number unit (toString number ++ unit.symbol).toList :=
  ⟨_, ⟨[], [], by simp, by simp, by simp⟩, amount_text number unit⟩

theorem read_spelled_iff {number : Nat} {unit : TimeUnit} {input : String} {span : Span}
    (spelled : Spelled number unit input.toList) :
    read input = .ok span ↔
      ∃ millis : UInt64, number * unit.millis = millis.toNat ∧ span = Span.ofMillis millis := by
  rw [read_eq_ok_iff]
  constructor
  · rintro ⟨other, otherUnit, again, magnitude, rfl, spanned⟩
    obtain ⟨rfl, rfl⟩ := spelled.unique again
    exact Duration.span_eq_ok_iff.mp spanned
  · rintro ⟨millis, exact, same⟩
    have positive := unit.millis_pos
    have bound := Word.toNat_le_largest millis
    -- The number is at most the length, and a word holds the length.
    have factor := Nat.le_mul_of_pos_right number positive
    have valued : (Word.clamp number).toNat = number := by
      rw [Word.toNat_clamp]
      omega
    refine ⟨number, unit, spelled, Word.clamp number, valued, ?_⟩
    rw [Duration.span_eq_ok_iff, Duration.exactMillis, valued]
    exact ⟨millis, exact, same⟩

theorem read_text_iff {span again : Span} :
    read (text span) = .ok again ↔
      ∃ millis : UInt64, span.millis = millis.toNat ∧ again = Span.ofMillis millis := by
  obtain ⟨number, unit, written, normal⟩ := text_eq span
  rw [written, read_spelled_iff (spelled_text number unit), normal.exact]

theorem exists_read_text_iff {span : Span} :
    (∃ again, read (text span) = .ok again) ↔ span.millis ≤ Word.largest := by
  simp only [read_text_iff]
  constructor
  · rintro ⟨_, millis, exact, _⟩
    rw [exact]
    exact Word.toNat_le_largest millis
  · intro fits
    refine ⟨_, Word.clamp span.millis, ?_, rfl⟩
    rw [Word.toNat_clamp]
    omega

theorem exactNanos_of_read_text {span again : Span} (found : read (text span) = .ok again) :
    again.exactNanos = span.millis * 1000000 := by
  obtain ⟨millis, exact, rfl⟩ := read_text_iff.mp found
  rw [Span.exactNanos_ofMillis, exact]

theorem text_of_read_text {span again : Span} (found : read (text span) = .ok again) :
    text again = text span := by
  obtain ⟨millis, exact, rfl⟩ := read_text_iff.mp found
  exact text_congr ((Span.millis_ofMillis millis).trans exact.symm)

theorem read_text_of_read {input : String} {span : Span} (found : read input = .ok span) :
    read (text span) = .ok span := by
  obtain ⟨number, unit, _, magnitude, _, spanned⟩ := read_eq_ok_iff.mp found
  obtain ⟨millis, _, rfl⟩ := Duration.span_eq_ok_iff.mp spanned
  exact read_text_iff.mpr ⟨millis, Span.millis_ofMillis millis, rfl⟩

theorem text_eq_iff {first second : String} {span other : Span} (found : read first = .ok span)
    (otherFound : read second = .ok other) :
    text span = text other ↔ span.exactNanos = other.exactNanos := by
  constructor
  · intro same
    have read := read_text_of_read found
    rw [same, read_text_of_read otherFound] at read
    rw [Except.ok.inj read]
  · intro same
    apply text_congr
    rw [Span.millis_eq_exactNanos_div, Span.millis_eq_exactNanos_div, same]

end HumanDuration

theorem Data.asDuration_text (content : String) :
    (Data.text content).asDuration =
      (HumanDuration.read content).mapError fun failure => { cause := .duration failure } := by
  unfold Data.asDuration
  simp only [Data.asText, bind, Except.bind]
  cases HumanDuration.read content with
  | ok span => rfl
  | error failure => rfl

open HumanDuration in
/-- A written span is read exactly when a word holds its whole milliseconds, and then as these.
What is read and written again is read as the same, writing a second time changes nothing, and two
texts are written alike exactly when they denote the same length. A span is written in the longest
unit that measures it evenly. As a value of a document it is the same text, read in the same way. -/
theorem written_spans_are_normal :
    (∀ span : Span,
      ((∃ again, read (text span) = .ok again) ↔ span.millis ≤ Word.largest) ∧
      (∀ again, read (text span) = .ok again →
        again.exactNanos = span.millis * 1000000 ∧ text again = text span) ∧
      (∃ number unit, text span = toString number ++ unit.symbol ∧
        Normal span.millis number unit) ∧
      Data.ofSpan span = .text (text span)) ∧
    (∀ input span, read input = .ok span → read (text span) = .ok span) ∧
    (∀ first second span other, read first = .ok span → read second = .ok other →
      (text span = text other ↔ span.exactNanos = other.exactNanos)) ∧
    ∀ content, (Data.text content).asDuration =
      (read content).mapError fun failure => { cause := .duration failure } := by
  refine ⟨?_, fun _ _ => read_text_of_read, fun _ _ _ _ => text_eq_iff, Data.asDuration_text⟩
  intro span
  refine ⟨exists_read_text_iff, ?_, text_eq span, rfl⟩
  intro again found
  exact ⟨exactNanos_of_read_text found, text_of_read_text found⟩

end StreamWindow
