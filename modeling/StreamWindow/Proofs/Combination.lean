import StreamWindow.Clause.Scanner
import StreamWindow.Proofs.Lexemes

/-!
What scanners are built from: how much of a source each of the simplest ones takes, and what
becomes of the stops of others when they are combined. Only a stop that is not final lets
something else be tried.
-/

namespace StreamWindow

theorem takeWhile_eq_nil_iff_head {belongs : Char → Bool} {source : List Char} :
    source.takeWhile belongs = [] ↔ ∀ first ∈ source.head?, belongs first = false := by
  cases source with
  | nil => simp
  | cons char source => simp [List.takeWhile_cons]

theorem any_head_iff {belongs : Char → Bool} {source : List Char} :
    source.head?.any belongs = true ↔ source.takeWhile belongs ≠ [] := by
  rw [Option.any_eq_true, ne_eq, takeWhile_eq_nil_iff_head]
  simp

namespace Scanner

section

variable {belongs : Char → Bool} {taken source rest : List Char} {stop : Stop}

theorem takeAll_ok_iff : (takeAll belongs).run source = .ok taken rest ↔
    source = taken ++ rest ∧ (∀ char ∈ taken, belongs char = true) ∧
      ∀ next ∈ rest.head?, belongs next = false := by
  rw [takeAll_run, EStateM.Result.ok.injEq, longest_iff]

theorem takeSome_ok_iff :
    (takeSome belongs).run source = .ok taken rest ↔ Run belongs taken source rest := by
  rw [takeSome_run, run_iff]
  by_cases empty : source.takeWhile belongs = []
  · rw [if_neg (mt any_head_iff.mp (not_not_intro empty))]
    simp +contextual [empty, eq_comm]
  · rw [if_pos (any_head_iff.mpr empty), EStateM.Result.ok.injEq]
    constructor
    · rintro ⟨rfl, rfl⟩
      exact ⟨empty, rfl, rfl⟩
    · rintro ⟨_, same, after⟩
      exact ⟨same, after⟩

theorem takeSome_error_iff : (takeSome belongs).run source = .error stop rest ↔
    stop = {} ∧ rest = source ∧ ∀ first ∈ source.head?, belongs first = false := by
  rw [takeSome_run, ← takeWhile_eq_nil_iff_head]
  by_cases empty : source.takeWhile belongs = []
  · rw [if_neg (mt any_head_iff.mp (not_not_intro empty))]
    simp [empty, eq_comm]
  · rw [if_pos (any_head_iff.mpr empty)]
    simp [empty]

theorem takeText_ok_iff {text : List Char} :
    (takeText text).run source = .ok () rest ↔ source = text ++ rest := by
  rw [takeText_run]
  by_cases here : text <+: source
  · obtain ⟨after, rfl⟩ := here
    simp
  · rw [if_neg (mt List.isPrefixOf_iff_prefix.mp here)]
    constructor
    · intro found
      contradiction
    · rintro rfl
      exact absurd (List.prefix_append text rest) here

theorem takeText_error_iff {text : List Char} : (takeText text).run source = .error stop rest ↔
    stop = {} ∧ rest = source ∧ ¬ text <+: source := by
  rw [takeText_run, ← List.isPrefixOf_iff_prefix]
  split
  · next here => simp [here]
  · next missing => simp [missing, eq_comm]

theorem takeCaseless_ok_iff {word : String} : (takeCaseless word).run source = .ok () rest ↔
    ∃ spelling, source = spelling ++ rest ∧
      spelling.map Char.toUpper = word.toList.map Char.toUpper := by
  rw [takeCaseless_run, ← dropCaseless?_eq_some_iff]
  cases dropCaseless? word.toList source with
  | none => simp
  | some after => simp

theorem takeCaseless_error_iff {word : String} :
    (takeCaseless word).run source = .error stop rest ↔ stop = {} ∧ rest = source ∧
      ∀ after, (takeCaseless word).run source ≠ .ok () after := by
  simp only [takeCaseless_run]
  cases dropCaseless? word.toList source with
  | none => simp [eq_comm]
  | some after => simp

theorem ending_ok_iff : ending.run source = .ok () rest ↔ source = [] ∧ rest = [] := by
  rw [ending_run]
  cases source with
  | nil => simp [eq_comm]
  | cons char source => simp

end

section

variable {α β : Type} {source rest : List Char} {stop : Stop} {value : α}

theorem bind_ok_iff {first : Scanner β} {later : β → Scanner α} :
    (first >>= later).run source = .ok value rest ↔ ∃ found middle,
      first.run source = .ok found middle ∧ (later found).run middle = .ok value rest := by
  rw [EStateM.run_bind]
  cases first.run source with
  | ok found middle => simp
  | error stop place => simp

theorem bind_error_iff {first : Scanner β} {later : β → Scanner α} :
    (first >>= later).run source = .error stop rest ↔
      first.run source = .error stop rest ∨ ∃ found middle,
        first.run source = .ok found middle ∧ (later found).run middle = .error stop rest := by
  rw [EStateM.run_bind]
  cases first.run source with
  | ok found middle => simp
  | error stop place => simp

theorem either_ok_iff {first second : Scanner α} :
    (either first second).run source = .ok value rest ↔ first.run source = .ok value rest ∨
      (∃ stop place, first.run source = .error stop place ∧ stop.final = false) ∧
        second.run source = .ok value rest := by
  rw [either_run]
  cases first.run source with
  | ok found after => simp
  | error stop place =>
      cases final : stop.final with
      | true => simp [final]
      | false => simp [final]

theorem either_assoc (first second third : Scanner α) :
    either (either first second) third = either first (either second third) := by
  funext source
  change (either (either first second) third).run source =
    (either first (either second third)).run source
  simp only [either_run]
  cases first.run source with
  | ok value rest => rfl
  | error stop rest =>
      cases final : stop.final with
      | true => simp [final]
      | false => simp [final]

theorem adapt_ok_iff {change : Stop → Stop} {scanner : Scanner α} :
    (adapt change scanner).run source = .ok value rest ↔
      scanner.run source = .ok value rest := by
  rw [adapt_run]
  cases scanner.run source with
  | ok found after => rfl
  | error stop place => simp

theorem adapt_error_iff {change : Stop → Stop} {scanner : Scanner α} :
    (adapt change scanner).run source = .error stop rest ↔
      ∃ inner, scanner.run source = .error inner rest ∧ change inner = stop := by
  rw [adapt_run]
  cases scanner.run source with
  | ok found after => simp
  | error inner place => simp [and_comm]

theorem adapt_adapt (outer inner : Stop → Stop) (scanner : Scanner α) :
    adapt outer (adapt inner scanner) = adapt (outer ∘ inner) scanner := by
  funext source
  change (adapt outer (adapt inner scanner)).run source =
    (adapt (outer ∘ inner) scanner).run source
  simp only [adapt_run]
  cases scanner.run source with
  | ok value rest => rfl
  | error stop rest => rfl

theorem commit_commit (scanner : Scanner α) : commit (commit scanner) = commit scanner :=
  adapt_adapt _ _ scanner

theorem either_commit (first second : Scanner α) : either (commit first) second = commit first := by
  funext source
  change (either (commit first) second).run source = (commit first).run source
  rw [either_run, commit, adapt_run]
  cases first.run source with
  | ok value rest => rfl
  | error stop rest => rfl

theorem commit_expecting (expected : Expected) (scanner : Scanner α) :
    commit (expecting expected scanner) = expecting expected (commit scanner) := by
  rw [commit, expecting, adapt_adapt, commit, expecting, adapt_adapt]
  rfl

/-- Scanning what may be missing is a choice of which the second part takes nothing. -/
theorem attempt_eq_either (scanner : Scanner α) :
    attempt scanner = either (some <$> scanner) (pure none) := by
  funext source
  change (attempt scanner).run source = (either (some <$> scanner) (pure none)).run source
  rw [attempt_run, either_run, map_eq_pure_bind, EStateM.run_bind]
  cases scanner.run source with
  | ok value rest => rfl
  | error stop rest => rfl

theorem attempt_none_iff {scanner : Scanner α} : (attempt scanner).run source = .ok none rest ↔
    rest = source ∧ ∃ stop place, scanner.run source = .error stop place ∧ stop.final = false := by
  rw [attempt_run]
  cases scanner.run source with
  | ok found after => simp
  | error stop place =>
      cases final : stop.final with
      | true => simp [final]
      | false => simpa [final] using eq_comm

end

end Scanner

end StreamWindow
