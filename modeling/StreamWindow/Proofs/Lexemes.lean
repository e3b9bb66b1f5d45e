import Mathlib.Data.String.Basic
import StreamWindow.Proofs.Layout

/-!
The lexical items of a clause as relations between a source that begins with an item and what
follows the item. Each reader of an item finds it exactly where the relation holds.
-/

namespace StreamWindow

/-- A kind of text, as a relation between sources that begin with such a text and their rests. -/
abbrev Piece := List Char → List Char → Prop

structure Run (belongs : Char → Bool) (run source rest : List Char) : Prop where
  split : source = run ++ rest
  filled : run ≠ []
  inside : ∀ char ∈ run, belongs char = true
  ends : ∀ next ∈ rest.head?, belongs next = false

/-- A keyword in any case, which no further letter, digit or underscore follows. -/
structure Keyword (word : String) (source rest : List Char) : Prop where
  spelled : ∃ spelling, source = spelling ++ rest ∧
    spelling.map Char.toUpper = word.toList.map Char.toUpper
  ends : ∀ next ∈ rest.head?, isWordChar next = false

def Symbol (char : Char) : Piece := fun source rest => source = char :: rest

def Number (value : UInt64) : Piece := fun source rest =>
  ∃ digits, Run Char.isDigit digits source rest ∧ Nat.ofDigitChars 10 digits 0 = value.toNat

def TimeUnit.singular : TimeUnit → String
  | milliseconds => "MILLISECOND"
  | seconds => "SECOND"
  | minutes => "MINUTE"
  | hours => "HOUR"
  | days => "DAY"

def UnitWord (unit : TimeUnit) : Piece := fun source rest =>
  ∃ word, Run Char.isAlpha word source rest ∧
    (word.map Char.toUpper = unit.singular.toList ∨ word.map Char.toUpper = unit.keyword.toList)

theorem longest_iff {belongs : Char → Bool} {taken source rest : List Char} :
    source.takeWhile belongs = taken ∧ source.dropWhile belongs = rest ↔
      source = taken ++ rest ∧ (∀ char ∈ taken, belongs char = true) ∧
        ∀ next ∈ rest.head?, belongs next = false := by
  constructor
  · rintro ⟨rfl, rfl⟩
    exact ⟨List.takeWhile_append_dropWhile.symm, List.all_eq_true.mp List.all_takeWhile,
      head_dropWhile⟩
  · rintro ⟨rfl, inside, ends⟩
    have stop : rest.takeWhile belongs = [] ∧ rest.dropWhile belongs = rest := by
      cases rest with
      | nil => exact ⟨rfl, rfl⟩
      | cons next rest => simp [ends next rfl]
    rw [List.takeWhile_append_of_pos inside, List.dropWhile_append_of_pos inside, stop.1, stop.2]
    exact ⟨List.append_nil taken, rfl⟩

theorem run_iff {belongs : Char → Bool} {run source rest : List Char} :
    Run belongs run source rest ↔
      run ≠ [] ∧ source.takeWhile belongs = run ∧ source.dropWhile belongs = rest := by
  rw [longest_iff]
  constructor
  · rintro ⟨split, filled, inside, ends⟩
    exact ⟨filled, split, inside, ends⟩
  · rintro ⟨filled, split, inside, ends⟩
    exact ⟨split, filled, inside, ends⟩

theorem spelled_cons_iff {letter char : Char} {word source rest : List Char} :
    (∃ spelling, char :: source = spelling ++ rest ∧
      spelling.map Char.toUpper = (letter :: word).map Char.toUpper) ↔
      letter.toUpper = char.toUpper ∧ ∃ spelling, source = spelling ++ rest ∧
        spelling.map Char.toUpper = word.map Char.toUpper := by
  constructor
  · rintro ⟨spelling, split, spelled⟩
    cases spelling with
    | nil => simp at spelled
    | cons first spelling =>
        obtain ⟨rfl, later⟩ := List.cons.inj split
        obtain ⟨same, spelled⟩ := List.cons.inj spelled
        exact ⟨same.symm, spelling, later, spelled⟩
  · rintro ⟨same, spelling, rfl, spelled⟩
    exact ⟨char :: spelling, rfl, by simp [same, spelled]⟩

theorem dropCaseless?_eq_some_iff {word source rest : List Char} :
    dropCaseless? word source = some rest ↔
      ∃ spelling, source = spelling ++ rest ∧
        spelling.map Char.toUpper = word.map Char.toUpper := by
  induction word generalizing source with
  | nil => simp [dropCaseless?]
  | cons letter word ih =>
      cases source with
      | nil => simp [dropCaseless?]
      | cons char source =>
          rw [dropCaseless?, spelled_cons_iff, ← ih]
          split
          · next same => simp [same]
          · next different => simp [different]

theorem keyword?_eq_some_iff {word : String} {source rest : List Char} :
    keyword? word source = some rest ↔ Keyword word source rest := by
  unfold keyword?
  constructor
  · intro found
    split at found
    · next after dropped =>
        split at found
        · contradiction
        · next ends =>
            obtain rfl := Option.some.inj found
            refine ⟨dropCaseless?_eq_some_iff.mp dropped, ?_⟩
            simpa [Option.any_eq_true] using ends
    · contradiction
  · rintro ⟨spelled, ends⟩
    rw [dropCaseless?_eq_some_iff.mpr spelled]
    have stops : ¬ rest.head?.any isWordChar = true := by
      simpa [Option.any_eq_true] using ends
    exact if_neg stops

theorem symbol?_eq_some_iff {char : Char} {source rest : List Char} :
    symbol? char source = some rest ↔ Symbol char source rest := by
  cases source with
  | nil => simp [symbol?, Symbol]
  | cons first source => simp [symbol?, Symbol]

theorem letters?_eq_some_iff {word source rest : List Char} :
    letters? source = some (word, rest) ↔ Run Char.isAlpha word source rest := by
  rw [run_iff]
  unfold letters?
  split
  · next empty =>
      constructor
      · intro found
        contradiction
      · rintro ⟨filled, same, _⟩
        exact absurd (same.symm.trans empty) filled
  · next letters filled =>
      simp only [Option.some.injEq, Prod.mk.injEq, ne_eq]
      constructor
      · rintro ⟨rfl, rest⟩
        exact ⟨filled, rfl, rest⟩
      · rintro ⟨_, same, rest⟩
        exact ⟨same, rest⟩

theorem integer?_eq_some_iff {value : UInt64} {source rest : List Char} :
    integer? source = some (value, rest) ↔
      Number value source rest ∧ rest.head? ≠ some '.' := by
  simp only [integer?, Number, run_iff]
  constructor
  · intro found
    split at found
    · contradiction
    · next accepted =>
        simp only [Bool.or_eq_true, List.isEmpty_iff, beq_iff_eq, not_or] at accepted
        obtain ⟨word, fits, same⟩ := Option.map_eq_some_iff.mp found
        obtain ⟨rfl, rfl⟩ := Prod.mk.inj same
        exact ⟨⟨_, ⟨accepted.1, rfl, rfl⟩, (Word.fit?_eq_some_iff _ _).mp fits⟩, accepted.2⟩
  · rintro ⟨⟨digits, ⟨filled, rfl, rfl⟩, valued⟩, noFraction⟩
    rw [if_neg]
    · rw [(Word.fit?_eq_some_iff _ _).mpr valued]
      rfl
    · simpa [filled] using noFraction

theorem ofWord?_eq_some_iff {word : List Char} {unit : TimeUnit} :
    TimeUnit.ofWord? word = some unit ↔
      word.map Char.toUpper = unit.singular.toList ∨
        word.map Char.toUpper = unit.keyword.toList := by
  rw [← String.ofList_eq, ← String.ofList_eq]
  unfold TimeUnit.ofWord?
  constructor
  · intro found
    split at found <;> cases found <;> simp_all [TimeUnit.singular, TimeUnit.keyword]
  · rintro (named | named)
    · rw [named]
      cases unit <;> rfl
    · rw [named]
      cases unit <;> rfl

theorem unit?_eq_some_iff {unit : TimeUnit} {source rest : List Char} :
    unit? source = some (unit, rest) ↔ UnitWord unit source rest := by
  simp only [UnitWord, ← letters?_eq_some_iff, ← ofWord?_eq_some_iff, unit?]
  constructor
  · intro found
    split at found
    · next word after read =>
        obtain ⟨named, ofWord, same⟩ := Option.map_eq_some_iff.mp found
        obtain ⟨rfl, rfl⟩ := Prod.mk.inj same
        exact ⟨word, read, ofWord⟩
    · contradiction
  · rintro ⟨word, read, ofWord⟩
    rw [read]
    simp [ofWord]

end StreamWindow
