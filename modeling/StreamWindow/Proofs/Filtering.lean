import Mathlib.Data.List.Induction
import Mathlib.Data.Prod.Lex
import Mathlib.Data.String.Basic
import Mathlib.Order.WithBot
import StreamWindow.Log.Filter
import StreamWindow.Proofs.Fallible

/-!
Which directive of a log filter decides about an event. Directives are ranked by how specific
they are; the last of those with the highest rank decides, and the level of the event plays no
part in it.
-/

namespace StreamWindow

namespace Directive

variable {directive earlier other : Directive}

def fieldRank (directive : Directive) : WithBot String :=
  match directive.field with
  | none => ⊥
  | some field => field.name

/-- A longer target ranks higher. Among targets of one length fields rank by their names. -/
def rank (directive : Directive) : ℕ ×ₗ WithBot String :=
  toLex (directive.targetSize, directive.fieldRank)

theorem outranks_iff : directive.outranks earlier = true ↔ earlier.rank ≤ directive.rank := by
  rw [outranks, rank, rank, Prod.Lex.toLex_le_toLex]
  by_cases same : directive.targetSize = earlier.targetSize
  · rw [if_pos same, fieldRank, fieldRank]
    cases directive.field with
    | none =>
        cases earlier.field with
        | none => simp [same]
        | some other => simp [same]
    | some field =>
        cases earlier.field with
        | none => simp [same]
        | some other => simp [same]
  · simp [same, Ne.symm same]

theorem outranks_refl (directive : Directive) : directive.outranks directive = true :=
  outranks_iff.mpr le_rfl

theorem outranks_trans (first : directive.outranks earlier = true)
    (second : earlier.outranks other = true) : directive.outranks other = true :=
  outranks_iff.mpr ((outranks_iff.mp second).trans (outranks_iff.mp first))

theorem outranks_of_not (lower : ¬ directive.outranks earlier = true) :
    earlier.outranks directive = true :=
  outranks_iff.mpr (le_of_not_ge (mt outranks_iff.mpr lower))

def Decisive (directive : Directive) (caring : List Directive) : Prop :=
  ∃ before after, caring = before ++ directive :: after ∧
    (∀ earlier ∈ before, directive.outranks earlier = true) ∧
    ∀ later ∈ after, ¬ later.outranks directive = true

theorem Decisive.mem {caring : List Directive} (decisive : directive.Decisive caring) :
    directive ∈ caring := by
  obtain ⟨before, after, rfl, _⟩ := decisive
  simp

theorem Decisive.outranks {caring : List Directive} (decisive : directive.Decisive caring) :
    ∀ other ∈ caring, directive.outranks other = true := by
  obtain ⟨before, after, rfl, earlier, later⟩ := decisive
  intro other member
  rcases List.mem_append.mp member with member | member
  · exact earlier other member
  · rcases List.mem_cons.mp member with rfl | member
    · exact outranks_refl other
    · exact outranks_of_not (later other member)

theorem decisive_concat_iff {last : Directive} {caring : List Directive} :
    directive.Decisive (caring ++ [last]) ↔
      (directive = last ∧ ∀ earlier ∈ caring, last.outranks earlier = true) ∨
        directive.Decisive caring ∧ ¬ last.outranks directive = true := by
  constructor
  · rintro ⟨before, after, split, earlier, later⟩
    rcases List.eq_nil_or_concat after with rfl | ⟨after, final, rfl⟩
    · obtain ⟨rfl, rfl⟩ := List.append_singleton_inj.mp split
      exact .inl ⟨rfl, earlier⟩
    · rw [List.concat_eq_append, ← List.cons_append, ← List.append_assoc] at split
      obtain ⟨rfl, rfl⟩ := List.append_singleton_inj.mp split
      simp only [List.concat_eq_append, List.mem_append, List.mem_singleton] at later
      exact .inr ⟨⟨before, after, rfl, earlier, fun next member => later next (.inl member)⟩,
        later last (.inr rfl)⟩
  · rintro (⟨rfl, earlier⟩ | ⟨⟨before, after, rfl, earlier, later⟩, lower⟩)
    · exact ⟨caring, [], rfl, earlier, by simp⟩
    · refine ⟨before, after ++ [last], by simp, earlier, ?_⟩
      intro next member
      rcases List.mem_append.mp member with member | member
      · exact later next member
      · rw [List.mem_singleton.mp member]
        exact lower

end Directive

namespace LogFilter

variable {filter : LogFilter} {event : Event} {directive : Directive}

def caring (filter : LogFilter) (event : Event) : List Directive :=
  filter.filter fun directive => directive.isStatic && directive.caresAbout event

def preferred (best : Option Directive) (directive : Directive) : Option Directive :=
  match best with
  | none => some directive
  | some found => if directive.outranks found then some directive else best

theorem preferred_ne_none (best : Option Directive) (directive : Directive) :
    preferred best directive ≠ none := by
  cases best with
  | none => simp [preferred]
  | some found =>
      rw [preferred]
      split
      · simp
      · simp

theorem foldl_preferred_eq_none {caring : List Directive}
    (undecided : caring.foldl preferred none = none) : caring = [] := by
  rcases List.eq_nil_or_concat caring with rfl | ⟨caring, last, rfl⟩
  · rfl
  · rw [List.concat_eq_append, List.foldl_append] at undecided
    exact absurd undecided (preferred_ne_none _ last)

theorem foldl_preferred_iff {caring : List Directive} :
    caring.foldl preferred none = some directive ↔ directive.Decisive caring := by
  induction caring using List.reverseRecOn generalizing directive with
  | nil =>
      constructor
      · intro found
        contradiction
      · intro decisive
        exact absurd decisive.mem (by simp)
  | append_singleton caring last ih =>
      rw [List.foldl_append, List.foldl_cons, List.foldl_nil, Directive.decisive_concat_iff, ← ih]
      cases found : caring.foldl preferred none with
      | none =>
          rw [foldl_preferred_eq_none found, preferred]
          constructor
          · intro same
            exact .inl ⟨(Option.some.inj same).symm, by simp⟩
          · rintro (⟨rfl, _⟩ | ⟨impossible, _⟩)
            · rfl
            · contradiction
      | some best =>
          have decisive := ih.mp found
          by_cases higher : last.outranks best = true
          · rw [preferred, if_pos higher]
            constructor
            · intro same
              refine .inl ⟨(Option.some.inj same).symm, fun earlier member => ?_⟩
              exact Directive.outranks_trans higher (decisive.outranks earlier member)
            · rintro (⟨rfl, _⟩ | ⟨same, lower⟩)
              · rfl
              · rw [← Option.some.inj same] at lower
                contradiction
          · rw [preferred, if_neg higher]
            constructor
            · intro same
              rw [← Option.some.inj same]
              exact .inr ⟨rfl, higher⟩
            · rintro (⟨_, highest⟩ | ⟨same, _⟩)
              · exact absurd (highest best decisive.mem) higher
              · exact same

/-- The last of the highest ranked directives that care about an event decides. -/
theorem decisive?_eq_some_iff :
    filter.decisive? event = some directive ↔ directive.Decisive (filter.caring event) :=
  foldl_preferred_iff

theorem decisive?_eq_none_iff : filter.decisive? event = none ↔ filter.caring event = [] := by
  constructor
  · exact foldl_preferred_eq_none
  · intro careless
    change (filter.caring event).foldl preferred none = none
    rw [careless]
    rfl

theorem enabled_iff : filter.enabled event = true ↔
    ∃ directive : Directive, directive.Decisive (filter.caring event) ∧
      ∃ limit, directive.level = some limit ∧ event.level.verbosity ≤ limit.verbosity := by
  simp only [enabled, Directive.passes, Option.any_eq_true, decisive?_eq_some_iff,
    decide_eq_true_eq]

theorem enabled_of_less_verbose {level : Level} (passes : filter.enabled event = true)
    (lower : level.verbosity ≤ event.level.verbosity) :
    filter.enabled { event with level } = true := by
  obtain ⟨directive, decisive, limit, limited, below⟩ := enabled_iff.mp passes
  exact enabled_iff.mpr ⟨directive, decisive, limit, limited, lower.trans below⟩

theorem foldlM_consider {parts : List (List Char)} {found known : List Directive}
    {complaints : List String} (read : parts.mapM Directive.read = .ok found) :
    parts.foldlM consider (known, complaints) = .ok (known ++ found, complaints) := by
  induction parts generalizing known found with
  | nil =>
      rw [List.mapM_nil] at read
      obtain rfl := Except.ok.inj read
      rw [List.append_nil]
      rfl
  | cons part parts ih =>
      simp only [List.mapM_cons, bind_eq_ok_iff] at read
      obtain ⟨first, here, later, rest, same⟩ := read
      obtain rfl := Except.ok.inj same
      rw [List.foldlM_cons, consider, here]
      have step := @ih later (known ++ [first]) rest
      rw [List.append_assoc] at step
      exact step

theorem readLeniently_of_read {text : String} (read : LogFilter.read text = .ok filter) :
    readLeniently text = .ok (filter, []) := by
  rw [LogFilter.read, ← bind_pure_comp, bind_eq_ok_iff] at read
  obtain ⟨found, parts, same⟩ := read
  obtain rfl := Except.ok.inj same
  rw [readLeniently, foldlM_consider parts]
  rfl

end LogFilter

end StreamWindow
