import StreamWindow.HumanDuration
import StreamWindow.Proofs.Checking
import StreamWindow.Proofs.Lexemes
import StreamWindow.Proofs.Measure

/-!
Durations as people write them, measured against their grammar: a number directly followed by the
symbol of a unit. They denote what a clause with the same number and unit denotes.
-/

namespace StreamWindow

def TimeUnit.symbol : TimeUnit → String
  | milliseconds => "ms"
  | seconds => "s"
  | minutes => "m"
  | hours => "h"
  | days => "d"

theorem TimeUnit.symbol_inj {unit other : TimeUnit} :
    unit.symbol = other.symbol ↔ unit = other := by
  cases unit <;> cases other <;> decide

def Surrounded (body text : List Char) : Prop :=
  ∃ before after, text = before ++ (body ++ after) ∧
    (∀ char ∈ before, Text.isBlank char = true) ∧ ∀ char ∈ after, Text.isBlank char = true

theorem dropWhile_run {belongs : Char → Bool} {run rest : List Char}
    (inside : ∀ char ∈ run, belongs char = true)
    (ends : ∀ next ∈ rest.head?, belongs next = false) :
    (run ++ rest).dropWhile belongs = rest := by
  rw [List.dropWhile_append_of_pos inside]
  cases rest with
  | nil => exact List.dropWhile_nil
  | cons next rest =>
      have outside : ¬ belongs next = true := by
        rw [Bool.not_eq_true]
        exact ends next List.head?_cons
      exact List.dropWhile_cons_of_neg outside

theorem trim_surrounded (text : List Char) : Surrounded (Text.trim text) text := by
  refine ⟨text.takeWhile Text.isBlank,
    ((text.dropWhile Text.isBlank).reverse.takeWhile Text.isBlank).reverse, ?_, ?_, ?_⟩
  · rw [Text.trim, ← List.reverse_append, List.takeWhile_append_dropWhile, List.reverse_reverse,
      List.takeWhile_append_dropWhile]
  · exact List.all_eq_true.mp List.all_takeWhile
  · intro char member
    exact List.all_eq_true.mp List.all_takeWhile char (List.mem_reverse.mp member)

theorem trim_of_surrounded {body text : List Char} (around : Surrounded body text)
    (filled : body ≠ []) (first : ∀ char ∈ body.head?, Text.isBlank char = false)
    (last : ∀ char ∈ body.getLast?, Text.isBlank char = false) : Text.trim text = body := by
  obtain ⟨before, after, rfl, blank, blankAfter⟩ := around
  have front : (before ++ (body ++ after)).dropWhile Text.isBlank = body ++ after := by
    refine dropWhile_run blank ?_
    rwa [List.head?_append_of_ne_nil _ filled]
  have back : (after.reverse ++ body.reverse).dropWhile Text.isBlank = body.reverse := by
    refine dropWhile_run ?_ ?_
    · intro char member
      exact blankAfter char (List.mem_reverse.mp member)
    · rwa [List.head?_reverse]
  rw [Text.trim, front, List.reverse_append, back, List.reverse_reverse]

theorem Span.exactNanos_ofMillis (millis : UInt64) :
    (Span.ofMillis millis).exactNanos = millis.toNat * 1000000 := by
  simp only [Span.ofMillis, Span.exactNanos, UInt64.toNat_div, UInt64.reduceToNat]
  omega

theorem Duration.span_eq_ok_iff {duration : Duration} {span : Span} :
    duration.span = .ok span ↔
      ∃ millis : UInt64, duration.exactMillis = millis.toNat ∧ span = Span.ofMillis millis := by
  simp only [Duration.span, bind_eq_ok_iff, Duration.millis_eq_ok_iff, pure, Except.pure,
    Except.ok.injEq, @eq_comm _ span]

theorem Duration.exactNanos_of_span {duration : Duration} {span : Span}
    (spanned : duration.span = .ok span) : span.exactNanos = duration.exactNanos := by
  obtain ⟨millis, exact, rfl⟩ := Duration.span_eq_ok_iff.mp spanned
  rw [Span.exactNanos_ofMillis, Duration.exactNanos, exact]

namespace HumanDuration

def Amount (number : Nat) (unit : TimeUnit) (text : List Char) : Prop :=
  ∃ digits, Run Char.isDigit digits text unit.symbol.toList ∧
    Nat.ofDigitChars 10 digits 0 = number

def Spelled (number : Nat) (unit : TimeUnit) (text : List Char) : Prop :=
  ∃ body, Surrounded body text ∧ Amount number unit body

theorem symbol_ne_nil (unit : TimeUnit) : unit.symbol.toList ≠ [] := by
  cases unit <;> decide

theorem symbol_apart {unit : TimeUnit} {char : Char} (member : char ∈ unit.symbol.toList) :
    char.isDigit = false ∧ Text.isBlank char = false := by
  have apart : (unit.symbol.toList.all fun char =>
      !char.isDigit && !Text.isBlank char) = true := by
    cases unit <;> decide
  have own := List.all_eq_true.mp apart char member
  rwa [Bool.and_eq_true, Bool.not_eq_true', Bool.not_eq_true'] at own

theorem Amount.trim {number : Nat} {unit : TimeUnit} {body text : List Char}
    (around : Surrounded body text) (amount : Amount number unit body) :
    Text.trim text = body := by
  obtain ⟨digits, ⟨rfl, filled, inside, _⟩, _⟩ := amount
  refine trim_of_surrounded around (by simp [filled]) ?_ ?_
  · intro char head
    rw [List.head?_append_of_ne_nil _ filled] at head
    have digit := inside char (List.mem_of_mem_head? head)
    exact Text.isBlank_of_isAlphanum (by rw [Char.isAlphanum, digit, Bool.or_true])
  · intro char final
    rw [List.getLast?_append_of_ne_nil _ (symbol_ne_nil unit)] at final
    exact (symbol_apart (List.mem_of_mem_getLast? final)).2

theorem spelled_iff {number : Nat} {unit : TimeUnit} {text : List Char} :
    Spelled number unit text ↔ Amount number unit (Text.trim text) := by
  constructor
  · rintro ⟨body, around, amount⟩
    rwa [amount.trim around]
  · intro amount
    exact ⟨_, trim_surrounded text, amount⟩

theorem Amount.unique {number otherNumber : Nat} {unit otherUnit : TimeUnit} {text : List Char}
    (first : Amount number unit text) (second : Amount otherNumber otherUnit text) :
    number = otherNumber ∧ unit = otherUnit := by
  obtain ⟨digits, run, valued⟩ := first
  obtain ⟨otherDigits, otherRun, otherValued⟩ := second
  obtain ⟨_, rfl, suffix⟩ := run_iff.mp run
  obtain ⟨_, rfl, otherSuffix⟩ := run_iff.mp otherRun
  have same := String.toList_injective (suffix.symm.trans otherSuffix)
  exact ⟨valued.symm.trans otherValued, TimeUnit.symbol_inj.mp same⟩

theorem Spelled.unique {number otherNumber : Nat} {unit otherUnit : TimeUnit} {text : List Char}
    (first : Spelled number unit text) (second : Spelled otherNumber otherUnit text) :
    number = otherNumber ∧ unit = otherUnit :=
  (spelled_iff.mp first).unique (spelled_iff.mp second)

/-! Reading. -/

theorem factor?_eq_some_iff {suffix : List Char} {factor : UInt64} :
    factor? suffix = some factor ↔
      ∃ unit : TimeUnit, suffix = unit.symbol.toList ∧ factor.toNat = unit.millis := by
  simp only [← String.ofList_eq]
  constructor
  · intro found
    unfold factor? at found
    split at found
    · next same => exact ⟨.milliseconds, same, Option.some.inj found ▸ rfl⟩
    · next same => exact ⟨.seconds, same, Option.some.inj found ▸ rfl⟩
    · next same => exact ⟨.minutes, same, Option.some.inj found ▸ rfl⟩
    · next same => exact ⟨.hours, same, Option.some.inj found ▸ rfl⟩
    · next same => exact ⟨.days, same, Option.some.inj found ▸ rfl⟩
    · contradiction
  · rintro ⟨unit, same, counts⟩
    obtain rfl : factor = UInt64.ofNat unit.millis := by rw [← counts, UInt64.ofNat_toNat]
    unfold factor?
    rw [same]
    cases unit <;> rfl

theorem product?_eq_some_iff {magnitude factor millis : UInt64} {unit : TimeUnit}
    (counts : factor.toNat = unit.millis) :
    Word.product? magnitude factor = some millis ↔
      Duration.exactMillis ⟨magnitude, unit⟩ = millis.toNat := by
  rw [Word.product?_eq_fit?, Word.fit?_eq_some_iff, counts, Duration.exactMillis]

theorem splitNumber_eq (chars : List Char) :
    splitNumber chars =
      if chars.dropWhile Char.isDigit = [] then .error (.missingSuffix (String.ofList chars))
      else if chars.takeWhile Char.isDigit = [] then .error (.missingNumber (String.ofList chars))
      else .ok (chars.takeWhile Char.isDigit, chars.dropWhile Char.isDigit) := by
  have before := bytePrefix?_append (chars.takeWhile Char.isDigit) (chars.dropWhile Char.isDigit)
  have after := byteSuffix?_append (chars.takeWhile Char.isDigit) (chars.dropWhile Char.isDigit)
  rw [List.takeWhile_append_dropWhile] at before after
  rw [splitNumber, byteFind?_not]
  by_cases bare : chars.dropWhile Char.isDigit = []
  · simp only [bare, if_true]
  · simp only [bare, if_false, ← byteLength_eq_zero_iff]
    cases length : Text.byteLength (chars.takeWhile Char.isDigit) with
    | zero => rfl
    | succ offset =>
        rw [length] at before after
        simp [before, after]

theorem splitNumber_eq_ok_iff {chars digits suffix : List Char} :
    splitNumber chars = .ok (digits, suffix) ↔
      Run Char.isDigit digits chars suffix ∧ suffix ≠ [] := by
  rw [splitNumber_eq, run_iff]
  split
  · next bare =>
      simp only [reduceCtorEq, false_iff]
      rintro ⟨⟨_, _, rfl⟩, filled⟩
      exact filled bare
  · next suffixed =>
      split
      · next empty =>
          simp only [reduceCtorEq, false_iff]
          rintro ⟨⟨filled, rfl, _⟩, _⟩
          exact filled empty
      · next filled =>
          rw [Except.ok.injEq, Prod.mk.injEq]
          constructor
          · rintro ⟨rfl, rfl⟩
            exact ⟨⟨filled, rfl, rfl⟩, suffixed⟩
          · rintro ⟨⟨_, same, rest⟩, _⟩
            exact ⟨same, rest⟩

theorem read_eq_ok_iff {text : String} {span : Span} :
    read text = .ok span ↔ ∃ number unit, Spelled number unit text.toList ∧
      ∃ magnitude : UInt64, magnitude.toNat = number ∧
        Duration.span ⟨magnitude, unit⟩ = .ok span := by
  simp only [spelled_iff, Amount, Duration.span_eq_ok_iff]
  constructor
  · intro found
    simp only [read] at found
    split at found
    · contradiction
    obtain ⟨⟨digits, suffix⟩, cut, found⟩ := bind_eq_ok_iff.mp found
    obtain ⟨run, _⟩ := splitNumber_eq_ok_iff.mp cut
    dsimp only at found
    split at found
    · contradiction
    next magnitude fits =>
      split at found
      · contradiction
      next factor named =>
        split at found
        · contradiction
        next millis measured =>
          rw [Word.fit?_eq_some_iff] at fits
          obtain ⟨unit, rfl, counts⟩ := factor?_eq_some_iff.mp named
          exact ⟨_, unit, ⟨digits, run, rfl⟩, magnitude, fits.symm, millis,
            (product?_eq_some_iff counts).mp measured, (Except.ok.inj found).symm⟩
  · rintro ⟨_, unit, ⟨digits, run, rfl⟩, magnitude, valued, millis, measured, rfl⟩
    have nonempty : Text.trim text.toList ≠ [] := by
      rw [run.split]
      simp [run.filled]
    have cut := splitNumber_eq_ok_iff.mpr ⟨run, symbol_ne_nil unit⟩
    have fits := (Word.fit?_eq_some_iff _ _).mpr valued.symm
    have counts : (UInt64.ofNat unit.millis).toNat = unit.millis := by
      cases unit <;> rfl
    have named := factor?_eq_some_iff.mpr ⟨unit, rfl, counts⟩
    have product := (product?_eq_some_iff counts).mpr measured
    simp only [read, List.isEmpty_iff, nonempty, if_false, cut, bind, Except.bind, fits, named,
      product]

theorem splitNumber_ne_splitCharacter (chars : List Char) :
    splitNumber chars ≠ .error .splitCharacter := by
  rw [splitNumber_eq]
  split
  · simp
  · split
    · simp
    · simp

theorem read_ne_splitCharacter (text : String) : read text ≠ .error .splitCharacter := by
  intro failed
  simp only [read] at failed
  split at failed
  · simp at failed
  rcases bind_eq_error_iff.mp failed with uncut | ⟨⟨digits, suffix⟩, _, failed⟩
  · exact splitNumber_ne_splitCharacter _ uncut
  · dsimp only at failed
    split at failed
    · simp at failed
    split at failed
    · simp at failed
    split at failed
    · simp at failed
    · contradiction

end HumanDuration

/-! A cap and an extent that are written alike. -/

section

variable {window : Window} {cap : Span}

theorem not_exceeds_of_span (spanned : window.extent.2.span = .ok cap) :
    ¬ window.Exceeds cap := by
  unfold Window.Exceeds
  rw [Duration.exactNanos_of_span spanned]
  exact Nat.lt_irrefl _

theorem refused_unexceeded_iff (unexceeded : ¬ window.Exceeds cap) {cause : Violation} :
    window.Refused (some cap) cause ↔ window.Refused none cause := by
  have uncapped (limit : Option Span) (within : ∀ span, limit = some span → ¬ window.Exceeds span) :
      window.Refused limit cause ↔ window.validate = .error cause := by
    refine or_iff_left ?_
    rintro ⟨_, exceeded⟩
    cases exceeded with
    | intro capped exceeds exact floored => exact within _ capped exceeds
  rw [uncapped none (by simp), uncapped (some cap) (by rintro _ ⟨rfl⟩; exact unexceeded)]

theorem check_unexceeded {clause : Clause} {denyWarnings : Bool}
    (unexceeded : ¬ clause.window.Exceeds cap) :
    clause.check ⟨some cap, denyWarnings⟩ = clause.check ⟨none, denyWarnings⟩ := by
  by_cases refused : ∃ cause, clause.window.Refused none cause
  · obtain ⟨cause, refused⟩ := refused
    have capped := (refused_unexceeded_iff unexceeded).mpr refused
    rw [check_of_refused capped, check_of_refused refused]
  · have uncapped (cause : Violation) : ¬ clause.window.Refused none cause := fun found =>
      refused ⟨cause, found⟩
    have capped (cause : Violation) : ¬ clause.window.Refused (some cap) cause := fun found =>
      uncapped cause ((refused_unexceeded_iff unexceeded).mp found)
    rw [check_of_unrefused capped, check_of_unrefused uncapped]

end

/-- A text is read as a span exactly when, up to blanks around it, it is a number followed by the
symbol of a unit, and the duration with that number and unit has a length as a span, which is then
the one that is read. A text is never cut inside a character. A cap that is written as the extent
of a clause changes nothing in what a check of the clause finds. -/
theorem HumanDuration.read_accepts_amounts (text : String) :
    (∀ span, HumanDuration.read text = .ok span ↔
      ∃ number unit, HumanDuration.Spelled number unit text.toList ∧
        ∃ magnitude : UInt64, magnitude.toNat = number ∧
          Duration.span ⟨magnitude, unit⟩ = .ok span) ∧
    (∀ number unit other otherUnit, HumanDuration.Spelled number unit text.toList →
      HumanDuration.Spelled other otherUnit text.toList → number = other ∧ unit = otherUnit) ∧
    HumanDuration.read text ≠ .error .splitCharacter ∧
    ∀ magnitude unit cap, HumanDuration.Spelled magnitude.toNat unit text.toList →
      HumanDuration.read text = .ok cap →
      ∀ clause : Clause, clause.window.extent.2 = ⟨magnitude, unit⟩ → ∀ denyWarnings,
        ¬ clause.window.Exceeds cap ∧
        clause.check ⟨some cap, denyWarnings⟩ = clause.check ⟨none, denyWarnings⟩ := by
  refine ⟨fun span => HumanDuration.read_eq_ok_iff, ?_, HumanDuration.read_ne_splitCharacter text,
    ?_⟩
  · intro number unit other otherUnit first second
    exact first.unique second
  · intro magnitude unit cap spelled read clause extent denyWarnings
    obtain ⟨number, again, otherSpelled, word, valued, spanned⟩ :=
      HumanDuration.read_eq_ok_iff.mp read
    obtain ⟨same, rfl⟩ := spelled.unique otherSpelled
    obtain rfl : magnitude = word := UInt64.toNat_inj.mp (same.trans valued.symm)
    rw [← extent] at spanned
    have unexceeded := not_exceeds_of_span spanned
    exact ⟨unexceeded, check_unexceeded unexceeded⟩

end StreamWindow
