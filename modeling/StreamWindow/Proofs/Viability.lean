import StreamWindow.Proofs.Items
import StreamWindow.Proofs.RoundTrip

/-!
Beginnings of clauses. Whatever items have been read, a text that continues them makes a clause:
the items that are still due, on a line of their own.
-/

namespace StreamWindow

section

variable {text tail other : List Char}

theorem ends_of_exchange {belongs : Char → Bool} (newline : belongs '\n' = false)
    (heads : other.head? = tail.head? ∨ other.head? = some '\n')
    (ends : ∀ next ∈ tail.head?, belongs next = false) :
    ∀ next ∈ other.head?, belongs next = false := by
  rcases heads with same | other
  · rwa [same]
  · rw [other]
    rintro next ⟨rfl⟩
    exact newline

theorem Run.exchange {belongs : Char → Bool} {run : List Char} (newline : belongs '\n' = false)
    (heads : other.head? = tail.head? ∨ other.head? = some '\n')
    (here : Run belongs run (text ++ tail) tail) : Run belongs run (text ++ other) other := by
  obtain ⟨split, filled, inside, ends⟩ := here
  obtain rfl := List.append_cancel_right split
  exact ⟨rfl, filled, inside, ends_of_exchange newline heads ends⟩

theorem Keyword.exchange {word : String}
    (heads : other.head? = tail.head? ∨ other.head? = some '\n')
    (here : Keyword word (text ++ tail) tail) : Keyword word (text ++ other) other := by
  obtain ⟨⟨spelling, split, spelled⟩, ends⟩ := here
  obtain rfl := List.append_cancel_right split
  exact ⟨⟨_, rfl, spelled⟩, ends_of_exchange (by decide) heads ends⟩

theorem Item.Here.exchange {item : Item}
    (heads : other.head? = tail.head? ∨ other.head? = some '\n')
    (here : item.Here (text ++ tail) tail) : item.Here (text ++ other) other := by
  cases item with
  | keyword word _ _ => exact Keyword.exchange heads here
  | symbol char _ _ =>
      have split : text ++ tail = [char] ++ tail := here
      obtain rfl := List.append_cancel_right split
      rfl
  | magnitude =>
      obtain ⟨⟨value, digits, run, valued⟩, noFraction⟩ := here
      refine ⟨⟨value, digits, run.exchange (by decide) heads, valued⟩, ?_⟩
      rcases heads with same | newline
      · rwa [same]
      · rw [newline]
        decide
  | unit =>
      obtain ⟨unit, word, run, named⟩ := here
      exact ⟨unit, word, run.exchange (by decide) heads, named⟩

theorem Layout.exchange {source : List Char} (layout : Layout source tail)
    (heads : other.head? = tail.head? ∨ other.head? = some '\n') (split : source = text ++ tail) :
    Layout (text ++ other) other := by
  induction layout generalizing text with
  | none rest =>
      obtain rfl : text = [] := by simpa using split
      exact .none other
  | @space char source rest space layout ih =>
      obtain ⟨before, rfl⟩ := layout.suffix
      obtain rfl : char :: before = text := List.append_cancel_right split
      exact .space space (ih heads rfl)
  | @comment body source rest plain ends layout ih =>
      obtain ⟨before, rfl⟩ := layout.suffix
      have same : ('-' :: '-' :: (body ++ before)) ++ rest = text ++ rest := by
        rw [← split]
        simp
      obtain rfl := List.append_cancel_right same
      have stops : ∀ next ∈ (before ++ other).head?, next = '\n' := by
        cases before with
        | nil =>
            rcases heads with same | newline
            · rw [List.nil_append, same]
              exact ends
            · rw [List.nil_append, newline]
              rintro next ⟨rfl⟩
              rfl
        | cons first before => exact ends
      have exchanged := Layout.comment plain stops (ih heads rfl)
      simpa using exchanged

end

theorem exchange_heads (between rest later : List Char) :
    (between ++ '\n' :: later).head? = (between ++ rest).head? ∨
      (between ++ '\n' :: later).head? = some '\n' := by
  cases between with
  | nil => exact .inr rfl
  | cons first between => exact .inl rfl

theorem Passed.exchange {items : List Item} {text rest : List Char}
    (passed : Passed items (text ++ rest) rest) (later : List Char) :
    Passed items (text ++ '\n' :: later) ('\n' :: later) := by
  induction items generalizing text with
  | nil => exact Layout.exchange passed (exchange_heads [] rest later) rfl
  | cons item items ih =>
      obtain ⟨start, after, layout, here, passed⟩ := passed
      obtain ⟨behind, rfl⟩ := passed.suffix
      obtain ⟨itemText, rfl, _⟩ := here.split
      obtain ⟨before, split⟩ := layout.suffix
      have same : before ++ itemText ++ behind ++ rest = text ++ rest := by
        rw [← split]
        simp
      obtain rfl := List.append_cancel_right same
      have heads := exchange_heads behind rest later
      refine ⟨itemText ++ (behind ++ '\n' :: later), behind ++ '\n' :: later, ?_,
        here.exchange heads, ih passed⟩
      have inner := exchange_heads (itemText ++ behind) rest later
      simp only [List.append_assoc] at inner layout ⊢
      exact layout.exchange inner rfl

def Item.sample : Item → List Char
  | keyword word _ _ => word.toList
  | symbol char _ _ => [char]
  | magnitude => (toString (1 : UInt64)).toList
  | unit => TimeUnit.days.keyword.toList

theorem written_sample (item : Item) : Written item.Here item.sample := by
  cases item with
  | keyword word _ _ => exact written_keyword word
  | symbol char _ _ => exact written_symbol char
  | magnitude =>
      intro rest
      refine ⟨⟨1, number_text ?_⟩, by simp⟩
      rintro next ⟨rfl⟩
      decide
  | unit =>
      intro rest
      refine ⟨.days, unitWord_keyword ?_⟩
      rintro next ⟨rfl⟩
      decide

def sampleText : List Item → List Char
  | [] => []
  | item :: items => item.sample ++ ' ' :: sampleText items

theorem passed_sampleText (items : List Item) : Passed items (sampleText items) [] := by
  induction items with
  | nil => exact .none []
  | cons item items ih =>
      exact ⟨_, _, .none _, written_sample item _, ih.of_layout layout_blank⟩

/-- What begins a clause can be completed to one. -/
theorem viable_of_passed {done later : List Item} {text : String} {rest : List Char}
    (clause : ClauseItems (done ++ later)) (passed : Passed done (text.toList ++ rest) rest) :
    ∃ completion clause, Clause.read (text ++ completion) = .ok clause := by
  have newline : Layout ('\n' :: sampleText later) (sampleText later) :=
    .space (by decide) (.none _)
  have whole := (passed.exchange (sampleText later)).append
    ((passed_sampleText later).of_layout newline)
  refine ⟨String.ofList ('\n' :: sampleText later), read_iff_passed.mpr ⟨_, clause, ?_⟩⟩
  rwa [String.toList_append, String.toList_ofList]

end StreamWindow
