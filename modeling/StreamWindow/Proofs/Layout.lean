import StreamWindow.Proofs.Forward

/-!
Layout between the items of a clause. The reader skips all the layout that a source starts
with, and there is only one way to do so.
-/

namespace StreamWindow

/-- A text begins with layout, after which `rest` follows. A comment takes in everything up to
the next newline or the end. -/
inductive Layout : List Char → List Char → Prop
  | none (rest) : Layout rest rest
  | space {char source rest} : isSpace char = true → Layout source rest →
      Layout (char :: source) rest
  | comment {body source rest} : '\n' ∉ body → (∀ next ∈ source.head?, next = '\n') →
      Layout source rest → Layout ('-' :: '-' :: (body ++ source)) rest

structure Solid (text : List Char) : Prop where
  noSpace : ∀ first ∈ text.head?, isSpace first = false
  noComment : ¬ ['-', '-'] <+: text

theorem head_dropWhile {belongs : Char → Bool} {source : List Char} :
    ∀ next ∈ (source.dropWhile belongs).head?, belongs next = false := by
  intro next head
  have stop := List.head?_dropWhile_not belongs source
  simp only [Option.mem_def] at head
  simpa [head] using stop

theorem skipLayout_space {char : Char} {source : List Char} (space : isSpace char = true) :
    skipLayout (char :: source) = skipLayout source := by
  have noDash : char ≠ '-' := by
    rintro rfl
    exact absurd space (by decide)
  rw [skipLayout]
  · simp [space]
  · intro rest dash
    exact absurd dash noDash

theorem skipLayout_solid {text : List Char} (solid : Solid text) : skipLayout text = text := by
  cases text with
  | nil => rfl
  | cons char rest =>
      have noSpace : isSpace char = false := solid.noSpace char rfl
      rw [skipLayout]
      · simp [noSpace]
      · rintro rest' rfl rfl
        exact solid.noComment ⟨rest', rfl⟩

theorem skipComment_newline {body source : List Char} (plain : '\n' ∉ body) :
    skipComment (body ++ '\n' :: source) = skipLayout source := by
  induction body with
  | nil => rw [List.nil_append, skipComment]
  | cons char body ih =>
      simp only [List.mem_cons, not_or] at plain
      rw [List.cons_append, skipComment]
      · exact ih plain.2
      · exact fun newline => plain.1 newline.symm

theorem skipComment_end {body : List Char} (plain : '\n' ∉ body) : skipComment body = [] := by
  induction body with
  | nil => rw [skipComment]
  | cons char body ih =>
      simp only [List.mem_cons, not_or] at plain
      rw [skipComment]
      · exact ih plain.2
      · exact fun newline => plain.1 newline.symm

theorem skipLayout_comment {body source : List Char} (plain : '\n' ∉ body)
    (ends : ∀ next ∈ source.head?, next = '\n') :
    skipLayout ('-' :: '-' :: (body ++ source)) = skipLayout source := by
  rw [skipLayout]
  cases source with
  | nil => rw [List.append_nil, skipComment_end plain, skipLayout]
  | cons next source =>
      have newline : next = '\n' := ends next rfl
      subst newline
      rw [skipComment_newline plain, skipLayout_space (by decide)]

theorem Layout.skip_eq {source rest : List Char} (layout : Layout source rest) :
    skipLayout source = skipLayout rest := by
  induction layout with
  | none rest => rfl
  | space space _ ih => rw [skipLayout_space space, ih]
  | comment plain ends _ ih => rw [skipLayout_comment plain ends, ih]

theorem Layout.trans {source middle rest : List Char} (first : Layout source middle)
    (second : Layout middle rest) : Layout source rest := by
  induction first with
  | none _ => exact second
  | space space _ ih => exact .space space (ih second)
  | comment plain ends _ ih => exact .comment plain ends (ih second)

theorem Layout.suffix {source rest : List Char} (layout : Layout source rest) :
    rest <:+ source := by
  induction layout with
  | none rest => exact List.suffix_refl rest
  | space _ _ ih => exact ih.trans (List.suffix_cons ..)
  | @comment body source rest _ _ _ ih =>
      have after : source <:+ '-' :: '-' :: (body ++ source) := ⟨'-' :: '-' :: body, rfl⟩
      exact ih.trans after

theorem skipComment_split (source : List Char) :
    ∃ body tail, source = body ++ tail ∧ '\n' ∉ body ∧ (∀ next ∈ tail.head?, next = '\n') ∧
      skipComment source = skipLayout tail := by
  induction source with
  | nil => exact ⟨[], [], rfl, by simp, by simp, by rw [skipComment, skipLayout]⟩
  | cons char source ih =>
      by_cases newline : char = '\n'
      · subst newline
        refine ⟨[], '\n' :: source, rfl, by simp, by simp, ?_⟩
        rw [skipComment, skipLayout_space (by decide)]
      · obtain ⟨body, tail, split, plain, ends, skipped⟩ := ih
        refine ⟨char :: body, tail, by rw [split, List.cons_append], ?_, ends, ?_⟩
        · simp only [List.mem_cons, not_or]
          exact ⟨fun same => newline same.symm, plain⟩
        · rw [skipComment]
          · exact skipped
          · exact newline

theorem not_solid_cases {source : List Char} (layout : ¬ Solid source) :
    (∃ char rest, source = char :: rest ∧ isSpace char = true) ∨
      ∃ rest, source = '-' :: '-' :: rest := by
  by_cases comment : ['-', '-'] <+: source
  · obtain ⟨rest, split⟩ := comment
    exact .inr ⟨rest, split.symm⟩
  · cases source with
    | nil => exact absurd ⟨by simp, comment⟩ layout
    | cons char rest =>
        cases space : isSpace char with
        | true => exact .inl ⟨char, rest, rfl, space⟩
        | false => exact absurd ⟨by simpa using space, comment⟩ layout

theorem skipLayout_spec (source : List Char) :
    Layout source (skipLayout source) ∧ Solid (skipLayout source) := by
  generalize size : source.length = length
  induction length using Nat.strongRecOn generalizing source with
  | ind length ih =>
      by_cases solid : Solid source
      · rw [skipLayout_solid solid]
        exact ⟨.none source, solid⟩
      · rcases not_solid_cases solid with ⟨char, rest, rfl, space⟩ | ⟨rest, rfl⟩
        · simp only [List.length_cons] at size
          have later := ih rest.length (by omega) rest rfl
          rw [skipLayout_space space]
          exact ⟨.space space later.1, later.2⟩
        · obtain ⟨body, tail, rfl, plain, ends, _⟩ := skipComment_split rest
          simp only [List.length_cons, List.length_append] at size
          have later := ih tail.length (by omega) tail rfl
          rw [skipLayout_comment plain ends]
          exact ⟨.comment plain ends later.1, later.2⟩

theorem layout_solid_iff {source rest : List Char} :
    Layout source rest ∧ Solid rest ↔ skipLayout source = rest := by
  constructor
  · rintro ⟨layout, solid⟩
    rw [layout.skip_eq, skipLayout_solid solid]
  · rintro rfl
    exact skipLayout_spec source

end StreamWindow
