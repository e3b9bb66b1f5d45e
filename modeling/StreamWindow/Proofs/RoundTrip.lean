import StreamWindow.CommandLine.Report
import StreamWindow.Proofs.Reading

/-!
Canonical texts. Each one is in the grammar and derives the window that it was written for, so
reading undoes writing.
-/

namespace StreamWindow

theorem number_text {value : UInt64} {rest : List Char}
    (ends : ∀ next ∈ rest.head?, next.isDigit = false) :
    Number value ((toString value).toList ++ rest) rest := by
  have digits : (toString value).toList = Nat.toDigits 10 value.toNat := Nat.toList_repr
  rw [digits]
  refine ⟨Nat.toDigits 10 value.toNat, ⟨rfl, Nat.toDigits_ne_nil, ?_, ends⟩, ?_⟩
  · exact fun digit member => Nat.isDigit_of_mem_toDigits (by decide) (by decide) member
  · exact Nat.ofDigitChars_ten_toDigits

theorem unitWord_keyword {unit : TimeUnit} {rest : List Char}
    (ends : ∀ next ∈ rest.head?, next.isAlpha = false) :
    UnitWord unit (unit.keyword.toList ++ rest) rest := by
  have letters : unit.keyword.toList.all Char.isAlpha = true := by
    cases unit <;> decide
  refine ⟨unit.keyword.toList, ⟨rfl, ?_, List.all_eq_true.mp letters, ends⟩, .inr ?_⟩
  · cases unit <;> decide
  · cases unit <;> decide

theorem keyword_self (word : String) {rest : List Char}
    (ends : ∀ next ∈ rest.head?, isWordChar next = false) :
    Keyword word (word.toList ++ rest) rest :=
  ⟨⟨word.toList, rfl, rfl⟩, ends⟩

theorem layout_blank {rest : List Char} : Layout (' ' :: rest) rest :=
  .space (by decide) (.none rest)

def Written (piece : Piece) (text : List Char) : Prop :=
  ∀ rest, piece (text ++ ' ' :: rest) (' ' :: rest)

theorem written_keyword (word : String) : Written (Keyword word) word.toList := by
  intro rest
  apply keyword_self
  rintro next ⟨rfl⟩
  decide

theorem written_symbol (char : Char) : Written (Symbol char) [char] := by
  intro rest
  rfl

theorem written_duration (duration : Duration) :
    Written (DurationText duration) duration.text.toList := by
  intro rest
  have text : duration.text = toString duration.magnitude ++ " " ++ duration.unit.keyword := rfl
  have split : duration.text.toList ++ ' ' :: rest = (toString duration.magnitude).toList ++
      ' ' :: (duration.unit.keyword.toList ++ ' ' :: rest) := by
    rw [text]
    simp
  rw [split]
  refine ⟨_, number_text ?_, _, layout_blank, _, unitWord_keyword ?_, rfl⟩
  · rintro next ⟨rfl⟩
    decide
  · rintro next ⟨rfl⟩
    decide

theorem sequence_blank {piece : Piece} {pieces : List Piece} {text source rest : List Char}
    (written : Written piece text) (later : Sequence pieces source rest) :
    Sequence (piece :: Layout :: pieces) (text ++ ' ' :: source) rest :=
  ⟨_, written source, source, layout_blank, later⟩

theorem windowText_text (window : Window) (rest : List Char) :
    WindowText window (window.text.toList ++ rest) rest := by
  have close : Sequence [Symbol ')'] (')' :: rest) rest := ⟨rest, rfl, rfl⟩
  cases window with
  | tumbling size =>
      have text : (Window.tumbling size).text = "TUMBLING ( SIZE " ++ size.text ++ " )" := rfl
      have split : (Window.tumbling size).text.toList ++ rest =
          "TUMBLING".toList ++ ' ' :: (['('] ++ ' ' :: ("SIZE".toList ++ ' ' ::
            (size.text.toList ++ ' ' :: ')' :: rest))) := by
        rw [text]
        simp
      rw [split]
      apply sequence_blank (written_keyword "TUMBLING")
      apply sequence_blank (written_symbol '(')
      apply sequence_blank (written_keyword "SIZE")
      apply sequence_blank (written_duration size)
      exact close
  | hopping size advance =>
      have text : (Window.hopping size advance).text =
          "HOPPING ( SIZE " ++ size.text ++ " , ADVANCE BY " ++ advance.text ++ " )" := rfl
      have split : (Window.hopping size advance).text.toList ++ rest =
          "HOPPING".toList ++ ' ' :: (['('] ++ ' ' :: ("SIZE".toList ++ ' ' ::
            (size.text.toList ++ ' ' :: ([','] ++ ' ' :: ("ADVANCE".toList ++ ' ' ::
              ("BY".toList ++ ' ' :: (advance.text.toList ++ ' ' :: ')' :: rest))))))) := by
        rw [text]
        simp
      rw [split]
      apply sequence_blank (written_keyword "HOPPING")
      apply sequence_blank (written_symbol '(')
      apply sequence_blank (written_keyword "SIZE")
      apply sequence_blank (written_duration size)
      apply sequence_blank (written_symbol ',')
      apply sequence_blank (written_keyword "ADVANCE")
      apply sequence_blank (written_keyword "BY")
      apply sequence_blank (written_duration advance)
      exact close
  | session gap =>
      have text : (Window.session gap).text = "SESSION ( " ++ gap.text ++ " )" := rfl
      have split : (Window.session gap).text.toList ++ rest =
          "SESSION".toList ++ ' ' :: (['('] ++ ' ' ::
            (gap.text.toList ++ ' ' :: ')' :: rest)) := by
        rw [text]
        simp
      rw [split]
      apply sequence_blank (written_keyword "SESSION")
      apply sequence_blank (written_symbol '(')
      apply sequence_blank (written_duration gap)
      exact close

theorem clauseText_text (window : Window) {tail : List Char} (layout : Layout tail []) :
    ClauseText window (window.text.toList ++ tail) :=
  .inl ⟨_, .none _, tail, windowText_text window tail, [], layout, rfl⟩

theorem read_text_append (window : Window) {tail : String} (layout : Layout tail.toList []) :
    Clause.read (window.text ++ tail) = .ok ⟨window, some ⟨1, 1⟩⟩ := by
  obtain ⟨after, kind⟩ := windowText_kind (windowText_text window tail.toList)
  rw [read_iff, String.toList_append]
  refine ⟨[], ?_, clauseText_text window layout, rfl⟩
  rw [kindStart_of_kind (.none _) kind, List.nil_append]

theorem read_text (window : Window) : Clause.read window.text = .ok ⟨window, some ⟨1, 1⟩⟩ := by
  have read := read_text_append window (show Layout "".toList [] from .none [])
  rwa [String.append_empty] at read

theorem text_injective {first second : Window} (same : first.text = second.text) :
    first = second := by
  have read := (read_text first).symm.trans (same ▸ read_text second)
  exact congrArg Clause.window (Except.ok.inj read)

section

open CommandLine

variable {source canonical : String} {clause : Clause}

theorem format_of_read (read : Clause.read source = .ok clause) :
    format source = .ok clause.text := by
  simp only [format, readClause, read]
  rfl

theorem read_of_format (formatted : format source = .ok canonical) :
    ∃ clause, Clause.read source = .ok clause ∧ clause.text = canonical := by
  cases read : Clause.read source with
  | error failure =>
      simp only [format, readClause, read] at formatted
      contradiction
  | ok clause =>
      rw [format_of_read read] at formatted
      exact ⟨clause, rfl, Except.ok.inj formatted⟩

theorem formatReport_ok (formatted : format source = .ok canonical) :
    formatReport source = { output := canonical ++ "\n" } := by
  have newline : s!"{canonical}\n" = canonical ++ "\n" := rfl
  unfold formatReport
  rw [formatted, ← newline]

theorem formatReport_of_read (read : Clause.read source = .ok clause) :
    formatReport source = { output := clause.text ++ "\n" } :=
  formatReport_ok (format_of_read read)

theorem formatReport_success (success : (formatReport source).success = true) :
    ∃ canonical, format source = .ok canonical := by
  unfold formatReport at success
  split at success
  · simp [failed] at success
  · next canonical formatted => exact ⟨canonical, formatted⟩

/-- Reading undoes writing for every window, so that no two windows share a text. Formatting
writes what was read; it accepts its own output, also with the newline that it prints, and changes
nothing in it. -/
theorem canonical_text_round_trip :
    (∀ window : Window, Clause.read window.text = .ok ⟨window, some ⟨1, 1⟩⟩) ∧
    (∀ first second : Window, first.text = second.text → first = second) ∧
    (∀ source clause, Clause.read source = .ok clause →
      ∃ again, Clause.read clause.text = .ok again ∧ again.window = clause.window ∧
        again.text = clause.text) ∧
    (∀ source clause, Clause.read source = .ok clause →
      format source = .ok clause.text ∧ formatReport source = { output := clause.text ++ "\n" }) ∧
    (∀ source canonical, format source = .ok canonical → format canonical = .ok canonical) ∧
    (∀ source, (formatReport source).success = true →
      formatReport (formatReport source).output = formatReport source) := by
  refine ⟨read_text, fun _ _ => text_injective, ?_, ?_, ?_, ?_⟩
  · intro source clause _
    exact ⟨_, read_text clause.window, rfl, rfl⟩
  · intro source clause read
    exact ⟨format_of_read read, formatReport_of_read read⟩
  · intro source canonical formatted
    obtain ⟨clause, _, rfl⟩ := read_of_format formatted
    have again := format_of_read (read_text clause.window)
    exact again
  · intro source success
    obtain ⟨canonical, formatted⟩ := formatReport_success success
    obtain ⟨clause, _, rfl⟩ := read_of_format formatted
    have newline : Layout "\n".toList [] := .space (by decide) (.none [])
    have again := format_of_read (read_text_append clause.window newline)
    rw [formatReport_ok formatted]
    exact formatReport_ok again

end

end StreamWindow
