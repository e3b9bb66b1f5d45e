import StreamWindow.Proofs.Places

/-!
Scanning item by item. A scanner gives back what it took before it failed, so that it does what
the reader of a clause does with the same item, and a sequence of items never leaves anything but
an end of the source.
-/

namespace StreamWindow

theorem integer?_eq_none_iff {source : List Char} : integer? source = none ↔
    (∀ first ∈ source.head?, first.isDigit = false) ∨
      ∃ digits after, Run Char.isDigit digits source after ∧
        (after.head? = some '.' ∨ Word.largest < Nat.ofDigitChars 10 digits 0) := by
  rw [← takeWhile_eq_nil_iff_head]
  simp only [integer?]
  by_cases empty : source.takeWhile Char.isDigit = []
  · simp [empty]
  · have here : Run Char.isDigit (source.takeWhile Char.isDigit) source
        (source.dropWhile Char.isDigit) := run_iff.mpr ⟨empty, rfl, rfl⟩
    constructor
    · intro refused
      refine .inr ⟨_, _, here, ?_⟩
      split at refused
      · next fraction =>
          simp only [Bool.or_eq_true, List.isEmpty_iff, empty, false_or, beq_iff_eq] at fraction
          exact .inl fraction
      · exact .inr ((Word.fit?_eq_none_iff _).mp (Option.map_eq_none_iff.mp refused))
    · rintro (none | ⟨digits, after, run, refused⟩)
      · exact absurd none empty
      · obtain ⟨_, rfl, rfl⟩ := run_iff.mp run
        rcases refused with fraction | large
        · simp [fraction]
        · simp [(Word.fit?_eq_none_iff _).mpr large]

namespace Scanner

variable {source rest : List Char} {stop : Stop}

theorem keyword_ok_iff {word : String} :
    (keyword word).run source = .ok () rest ↔ Keyword word source rest := by
  rw [keyword_eq_whole, whole_ok_iff, ← keyword?_eq_some_iff]
  simp

theorem keyword_error_iff {word : String} : (keyword word).run source = .error stop rest ↔
    stop = {} ∧ rest = source ∧ ∀ after, ¬ Keyword word source after := by
  rw [keyword_eq_whole, whole_error_iff, Option.map_eq_none_iff]
  simp only [Option.eq_none_iff_forall_ne_some, ne_eq, keyword?_eq_some_iff]

theorem letters_ok_iff {word : List Char} :
    letters.run source = .ok word rest ↔ Run Char.isAlpha word source rest :=
  takeSome_ok_iff

theorem letters_error_iff : letters.run source = .error stop rest ↔
    stop = {} ∧ rest = source ∧ ∀ first ∈ source.head?, first.isAlpha = false :=
  takeSome_error_iff

theorem integer_ok_iff {value : UInt64} : integer.run source = .ok value rest ↔
    Number value source rest ∧ rest.head? ≠ some '.' := by
  rw [integer_eq_whole, whole_ok_iff, integer?_eq_some_iff]

theorem integer_error_iff : integer.run source = .error stop rest ↔
    stop = {} ∧ rest = source ∧ ((∀ first ∈ source.head?, first.isDigit = false) ∨
      ∃ digits after, Run Char.isDigit digits source after ∧
        (after.head? = some '.' ∨ Word.largest < Nat.ofDigitChars 10 digits 0)) := by
  rw [integer_eq_whole, whole_error_iff, integer?_eq_none_iff]

end Scanner

namespace Lexeme

def read? : Lexeme → List Char → Option (Token × List Char)
  | layout => fun source => some (.passed, skipLayout source)
  | letters => fun source => (letters? source).map (Prod.map .letters id)
  | integer => fun source => (integer? source).map (Prod.map .integer id)
  | keyword word => fun source => (keyword? word source).map (.passed, ·)

theorem scan_eq_whole (lexeme : Lexeme) : lexeme.scan = Scanner.whole lexeme.read? := by
  cases lexeme with
  | layout =>
      simp only [scan, bind_pure_comp, Scanner.layout_eq_whole, Scanner.map_whole]
      rfl
  | letters =>
      simp only [scan, bind_pure_comp, Scanner.letters_eq_whole, Scanner.map_whole]
      rfl
  | integer =>
      simp only [scan, bind_pure_comp, Scanner.integer_eq_whole, Scanner.map_whole]
      rfl
  | keyword word =>
      simp only [scan, bind_pure_comp, Scanner.keyword_eq_whole, Scanner.map_whole, Option.map_map]
      rfl

theorem remainder_of_read? {lexeme : Lexeme} {token : Token} {source rest : List Char}
    (found : lexeme.read? source = some (token, rest)) : Remainder source rest := by
  cases lexeme with
  | layout =>
      obtain ⟨_, rfl⟩ := Prod.mk.inj (Option.some.inj found)
      exact Remainder.whole.layout
  | letters =>
      obtain ⟨⟨word, after⟩, read, same⟩ := Option.map_eq_some_iff.mp found
      obtain ⟨_, rfl⟩ := Prod.mk.inj same
      obtain ⟨_, _, rfl⟩ := run_iff.mp (letters?_eq_some_iff.mp read)
      exact Remainder.whole.run Char.isAlpha
  | integer =>
      obtain ⟨⟨value, after⟩, read, same⟩ := Option.map_eq_some_iff.mp found
      obtain ⟨_, rfl⟩ := Prod.mk.inj same
      obtain ⟨⟨digits, run, _⟩, _⟩ := integer?_eq_some_iff.mp read
      obtain ⟨_, _, rfl⟩ := run_iff.mp run
      exact Remainder.whole.run Char.isDigit
  | keyword word =>
      obtain ⟨after, read, same⟩ := Option.map_eq_some_iff.mp found
      obtain ⟨_, rfl⟩ := Prod.mk.inj same
      exact .keyword read

theorem outcome_eq (lexeme : Lexeme) (source : List Char) : lexeme.outcome source =
    match lexeme.read? source with
    | some (token, rest) => (some token, rest)
    | none => (none, source) := by
  rw [outcome, scan_eq_whole, EStateM.run, Scanner.whole]
  cases lexeme.read? source with
  | none => rfl
  | some found => rfl

theorem outcome_of_failure {lexeme : Lexeme} {source : List Char}
    (failed : (lexeme.outcome source).1 = none) : (lexeme.outcome source).2 = source := by
  rw [outcome_eq] at failed ⊢
  cases found : lexeme.read? source with
  | none => rfl
  | some result =>
      rw [found] at failed
      contradiction

theorem remainder_of_outcome (lexeme : Lexeme) (source : List Char) :
    Remainder source (lexeme.outcome source).2 := by
  rw [outcome_eq]
  cases found : lexeme.read? source with
  | none => exact .whole
  | some result => exact remainder_of_read? found

theorem remainder_of_outcomes (lexemes : List Lexeme) (source : List Char) :
    ∀ outcome ∈ outcomes lexemes source, Remainder source outcome.2 := by
  induction lexemes generalizing source with
  | nil => simp [outcomes]
  | cons next later ih =>
      intro outcome member
      have step := remainder_of_outcome next source
      rcases List.mem_cons.mp member with rfl | member
      · exact step
      · exact step.trans (ih _ outcome member)

end Lexeme

theorem keyword_bytes {word : String} {source rest : List Char} (here : Keyword word source rest) :
    Text.byteSuffix? word.utf8ByteSize source = some rest := by
  rw [← byteLength_toList]
  exact byteSuffix?_of_dropCaseless? (dropCaseless?_eq_some_iff.mpr here.spelled)

/-- Whatever items are scanned, in whatever order, what is left is an end of the source that starts
between two characters, and an item that is not found takes nothing. A keyword is found where it
is spelled in some case and ends, with as many bytes as it has; letters and digits are found as
long as there are more of them. Digits are refused for a fraction or a value too large for a
word. Whoever asked for an item that is not found may still try another one. -/
theorem items_scanned_whole :
    (∀ (text : String) (lexemes : List Lexeme),
      ∀ outcome ∈ Lexeme.outcomes lexemes text.toList, outcome.2 <:+ text.toList ∧
        (⟨text.utf8ByteSize - Text.byteLength outcome.2⟩ : String.Pos.Raw).IsValid text) ∧
    ∀ source rest : List Char,
      (∀ lexeme : Lexeme, (lexeme.outcome source).1 = none → (lexeme.outcome source).2 = source) ∧
      (∀ word : String,
        ((Scanner.keyword word).run source = .ok () rest ↔ Keyword word source rest) ∧
        (Keyword word source rest → Text.byteSuffix? word.utf8ByteSize source = some rest) ∧
        ∀ stop, (Scanner.keyword word).run source = .error stop rest ↔
          stop = {} ∧ rest = source ∧ ∀ after, ¬ Keyword word source after) ∧
      (∀ word, Scanner.letters.run source = .ok word rest ↔ Run Char.isAlpha word source rest) ∧
      (∀ stop, Scanner.letters.run source = .error stop rest ↔
        stop = {} ∧ rest = source ∧ ∀ first ∈ source.head?, first.isAlpha = false) ∧
      (∀ value, Scanner.integer.run source = .ok value rest ↔
        Number value source rest ∧ rest.head? ≠ some '.') ∧
      (∀ stop, Scanner.integer.run source = .error stop rest ↔
        stop = {} ∧ rest = source ∧ ((∀ first ∈ source.head?, first.isDigit = false) ∨
          ∃ digits after, Run Char.isDigit digits source after ∧
            (after.head? = some '.' ∨ Word.largest < Nat.ofDigitChars 10 digits 0))) := by
  constructor
  · intro text lexemes outcome member
    have remains := Lexeme.remainder_of_outcomes lexemes text.toList outcome member
    exact ⟨remains.suffix, remains.valid.2⟩
  · intro source rest
    exact ⟨fun _ => Lexeme.outcome_of_failure,
      fun _ => ⟨Scanner.keyword_ok_iff, keyword_bytes, fun _ => Scanner.keyword_error_iff⟩,
      fun _ => Scanner.letters_ok_iff, fun _ => Scanner.letters_error_iff,
      fun _ => Scanner.integer_ok_iff, fun _ => Scanner.integer_error_iff⟩

example : Lexeme.outcomes [.keyword "SIZE", .letters, .layout, .integer] "sizes 5.5".toList =
    [(none, "sizes 5.5".toList), (some (.letters "sizes".toList), " 5.5".toList),
      (some .passed, "5.5".toList), (none, "5.5".toList)] := by cbv

end StreamWindow
