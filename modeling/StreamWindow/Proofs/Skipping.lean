import StreamWindow.Proofs.Layout
import StreamWindow.Text.Blank

/-!
Skipping layout round by round. A round takes a part of the layout, all of it if it is the last
one, and there are only so many rounds in a source.
-/

namespace StreamWindow

theorem layout_dropWhile (source : List Char) : Layout source (source.dropWhile isSpace) := by
  induction source with
  | nil => exact .none []
  | cons char source ih =>
      cases space : isSpace char with
      | true =>
          rw [List.dropWhile_cons_of_pos space]
          exact .space space ih
      | false =>
          rw [List.dropWhile_cons_of_neg (by simp [space])]
          exact .none _

theorem layout_comment (source : List Char) :
    Layout ('-' :: '-' :: source) (source.dropWhile (· != '\n')) := by
  have plain : '\n' ∉ source.takeWhile (· != '\n') := by
    intro member
    have inside := List.all_eq_true.mp List.all_takeWhile '\n' member
    contradiction
  have ends : ∀ next ∈ (source.dropWhile (· != '\n')).head?, next = '\n' := by
    intro next head
    simpa using head_dropWhile next head
  have whole := Layout.comment plain ends (.none _)
  rwa [List.takeWhile_append_dropWhile] at whole

namespace Scanner

theorem layoutRound_spec (source : List Char) :
    ∃ again rest, layoutRound.run source = .ok again rest ∧ Layout source rest ∧
      (again = false → Solid rest) := by
  have spaces := layout_dropWhile source
  by_cases comment : ['-', '-'] <+: source.dropWhile isSpace
  · obtain ⟨tail, split⟩ := comment
    have opened : source.dropWhile isSpace = '-' :: '-' :: tail := split.symm
    refine ⟨true, tail.dropWhile (· != '\n'), ?_, ?_, nofun⟩
    · rw [layoutRound_run, opened]
      rfl
    · rw [opened] at spaces
      exact spaces.trans (layout_comment tail)
  · have solid : Solid (source.dropWhile isSpace) := ⟨head_dropWhile, comment⟩
    refine ⟨false, source.dropWhile isSpace, ?_, spaces, fun _ => solid⟩
    rw [layoutRound_run, if_neg (by rwa [List.isPrefixOf_iff_prefix])]

theorem layout_spec (source : List Char) :
    ∃ rest, layout.run source = .ok () rest ∧ Layout source rest ∧ Solid rest := by
  generalize size : source.length = length
  induction length using Nat.strongRecOn generalizing source with
  | ind length ih =>
      obtain ⟨again, middle, ran, taken, solid⟩ := layoutRound_spec source
      rw [layout_run, ran]
      cases again with
      | false => exact ⟨middle, rfl, taken, solid rfl⟩
      | true =>
          have shorter := layoutRound_shorter ran
          obtain ⟨rest, skipped, later, solid⟩ := ih middle.length (by omega) middle rfl
          exact ⟨rest, skipped, taken.trans later, solid⟩

theorem layout_run_eq (source : List Char) : layout.run source = .ok () (skipLayout source) := by
  obtain ⟨rest, skipped, taken, solid⟩ := layout_spec source
  rw [skipped, layout_solid_iff.mp ⟨taken, solid⟩]

end Scanner

theorem solid_of_plain {char : Char} {rest : List Char} (noSpace : isSpace char = false)
    (noComment : char = '-' → rest.head? ≠ some '-') : Solid (char :: rest) := by
  refine ⟨by simpa using noSpace, ?_⟩
  rintro ⟨tail, same⟩
  obtain ⟨rfl, rfl⟩ := List.cons.inj same
  exact noComment rfl rfl

/-- Skipping ends, since a round that is not the last one takes two characters or more, and cannot
fail. It splits a source into layout and what is no layout, as nothing else does; so it changes
nothing when it is done again, and stops at a dash that stands alone and at every other blank. -/
theorem layout_splits_once (source : List Char) :
    (∀ start, ∃ again rest, Scanner.layoutRound.run start = .ok again rest ∧
      (again = true → rest.length + 2 ≤ start.length)) ∧
    ∃ rest, Scanner.layout.run source = .ok () rest ∧ rest <:+ source ∧
      Layout source rest ∧ Solid rest ∧
      (∀ other, Layout source other → Solid other → other = rest) ∧
      Scanner.layout.run rest = .ok () rest ∧
      ∀ char after, Layout source (char :: after) →
        (char = '-' ∧ after.head? ≠ some '-' ∨ Text.isBlank char = true ∧ isSpace char = false) →
        rest = char :: after := by
  constructor
  · intro start
    obtain ⟨again, rest, ran, _, _⟩ := Scanner.layoutRound_spec start
    refine ⟨again, rest, ran, ?_⟩
    rintro rfl
    exact Scanner.layoutRound_shorter ran
  · obtain ⟨taken, solid⟩ := skipLayout_spec source
    have only (other : List Char) (taken : Layout source other) (solid : Solid other) :
        other = skipLayout source := (layout_solid_iff.mp ⟨taken, solid⟩).symm
    refine ⟨skipLayout source, Scanner.layout_run_eq source, taken.suffix, taken, solid, only,
      ?_, ?_⟩
    · rw [Scanner.layout_run_eq, skipLayout_solid solid]
    · rintro char after before (⟨rfl, alone⟩ | ⟨blank, noSpace⟩)
      · exact (only _ before (solid_of_plain (by decide) fun _ => alone)).symm
      · refine (only _ before (solid_of_plain noSpace ?_)).symm
        rintro rfl
        contradiction

example : Scanner.layout.run " -- a -- b\r\n- c".toList = .ok () "- c".toList := by cbv

end StreamWindow
