import StreamWindow.Proofs.Viability

/-!
Where reading stops when it fails. The place is behind everything that a clause can begin with,
and what is expected there is what a clause goes on with.
-/

namespace StreamWindow

theorem item_eq_error_iff {α : Type} {expected : Expected} {read : List Char → Option α}
    {source : List Char} {failure : Failure} :
    item expected read source = .error failure ↔
      failure = ⟨expected, skipLayout source⟩ ∧ read (skipLayout source) = none := by
  unfold item
  split
  · next found read => simp [read]
  · next missing => simp [missing, @eq_comm _ failure]

theorem finish_eq_error_iff {source : List Char} {failure : Failure} :
    finish source = .error failure ↔
      failure = ⟨.endOfClause, skipLayout source⟩ ∧ skipLayout source ≠ [] := by
  unfold finish
  cases skipLayout source with
  | nil => simp
  | cons char rest => simp [@eq_comm _ failure]

theorem readRest_error {items : List Item} {source : List Char} {failure : Failure}
    (failed : readRest items source = .error failure) :
    Solid failure.rest ∧ ∃ done later, items = done ++ later ∧ Passed done source failure.rest := by
  induction items generalizing source with
  | nil =>
      rw [readRest_nil, finish_eq_error_iff] at failed
      obtain ⟨rfl, _⟩ := failed
      obtain ⟨layout, solid⟩ := skipLayout_spec source
      exact ⟨solid, [], [], rfl, layout⟩
  | cons next items ih =>
      rw [readRest_cons, bind_eq_error_iff] at failed
      obtain ⟨layout, solid⟩ := skipLayout_spec source
      rcases failed with missing | ⟨after, found, failed⟩
      · obtain ⟨rfl, _⟩ := item_eq_error_iff.mp missing
        exact ⟨solid, [], next :: items, rfl, layout⟩
      · obtain ⟨solid, done, later, rfl, passed⟩ := ih failed
        obtain ⟨start, layout, here⟩ := item_here_iff.mp found
        exact ⟨solid, next :: done, later, rfl, start, after, layout, here, passed⟩

theorem readRest_error_length {items : List Item} {source : List Char} {failure : Failure}
    (failed : readRest items source = .error failure) :
    failure.rest.length ≤ source.length := by
  obtain ⟨_, done, later, _, passed⟩ := readRest_error failed
  exact passed.suffix.length_le

/-- The item that a clause goes on with after what precedes the rest. At the end of a clause there
is none. -/
def Due (source rest : List Char) (due : Option Item) : Prop :=
  ∃ done later, ClauseItems (done ++ later) ∧ Passed done source rest ∧ due = later.head?

def expectedAt : Option Item → Expected
  | some next => next.expected
  | none => .endOfClause

def Present : Option Item → List Char → Prop
  | some next, rest => ∃ after, next.Here rest after
  | none, rest => rest = []

theorem stuck_of_readRest {later : List Item} {failure : Failure}
    (stuck : readRest later failure.rest = .error failure) (solid : Solid failure.rest) :
    expectedAt later.head? = failure.expected ∧ ¬ Present later.head? failure.rest := by
  cases later with
  | nil =>
      rw [readRest_nil, finish_eq_error_iff, skipLayout_solid solid] at stuck
      obtain ⟨same, filled⟩ := stuck
      exact ⟨by rw [same]; rfl, filled⟩
  | cons next later =>
      rw [readRest_cons, bind_eq_error_iff] at stuck
      rcases stuck with missing | ⟨after, found, failed⟩
      · rw [item_eq_error_iff, skipLayout_solid solid, Item.read?_eq_none_iff] at missing
        obtain ⟨same, absent⟩ := missing
        refine ⟨by rw [same]; rfl, ?_⟩
        rintro ⟨after, here⟩
        exact absent after here
      · -- The first item was read, so reading went on past the place where it stopped.
        obtain ⟨start, layout, here⟩ := item_here_iff.mp found
        have shorter := here.shorter
        have within := layout.suffix.length_le
        have behind := readRest_error_length failed
        omega

theorem readWindow_error_iff {source : List Char} {failure : Failure} :
    readWindow source = .error failure ↔
      (failure = ⟨.windowKind, kindStart source⟩ ∧ kind? (kindStart source) = none) ∨
        ∃ kind after, Keyword kind.keyword (kindStart source) after ∧
          readRest (itemsAfter kind) after = .error failure := by
  have skipped := skipLayout_solid (kindStart_solid source)
  rw [← map_eq_error_iff, readWindow_walk, bind_eq_error_iff, item_eq_error_iff, skipped]
  simp only [item, skipped]
  constructor
  · rintro (missing | ⟨⟨kind, after⟩, found, failed⟩)
    · exact .inl missing
    · split at found
      · next read =>
          obtain rfl := Except.ok.inj found
          exact .inr ⟨kind, after, kind?_eq_some_iff.mp read, failed⟩
      · contradiction
  · rintro (missing | ⟨kind, after, here, failed⟩)
    · exact .inl missing
    · refine .inr ⟨(kind, after), ?_, failed⟩
      rw [kind?_eq_some_iff.mpr here]

theorem due_exists {source : List Char} {failure : Failure}
    (failed : readWindow source = .error failure) :
    Solid failure.rest ∧ ∃ due, Due source failure.rest due := by
  obtain ⟨leading, lead, before⟩ := passed_leading source
  rcases readWindow_error_iff.mp failed with ⟨rfl, _⟩ | ⟨kind, after, here, failed⟩
  · exact ⟨kindStart_solid source, _, leading, .kind .tumbling :: itemsAfter .tumbling,
      ⟨leading, .tumbling, lead, rfl⟩, before, rfl⟩
  · obtain ⟨solid, done, later, split, passed⟩ := readRest_error failed
    have read : Passed (.kind kind :: done) (kindStart source) failure.rest :=
      ⟨kindStart source, after, .none _, here, passed⟩
    refine ⟨solid, _, leading ++ .kind kind :: done, later, ⟨leading, kind, lead, ?_⟩,
      before.append read, rfl⟩
    rw [split, List.append_assoc, List.cons_append]

theorem clauseItems_split {done later : List Item} (clause : ClauseItems (done ++ later)) :
    (Leading done ∧ ∃ next, later.head? = some next ∧ next.expected = .windowKind ∧
        ((∃ kind, next = .kind kind) ∨ done = [] ∧ next = .keyword "WINDOW" .windowKind)) ∨
      ∃ leading kind inner, Leading leading ∧ done = leading ++ .kind kind :: inner ∧
        itemsAfter kind = inner ++ later := by
  obtain ⟨leading, kind, lead, split⟩ := clause
  rcases List.append_eq_append_iff.mp split with ⟨tail, rfl, rfl⟩ | ⟨tail, rfl, same⟩
  · left
    rcases lead with none | window
    · obtain ⟨rfl, rfl⟩ := List.append_eq_nil_iff.mp none
      exact ⟨.inl rfl, .kind kind, rfl, rfl, .inl ⟨kind, rfl⟩⟩
    · rcases List.append_eq_singleton_iff.mp window with ⟨rfl, rfl⟩ | ⟨rfl, rfl⟩
      · exact ⟨.inl rfl, _, rfl, rfl, .inr ⟨rfl, rfl⟩⟩
      · exact ⟨.inr rfl, .kind kind, rfl, rfl, .inl ⟨kind, rfl⟩⟩
  · cases tail with
    | nil =>
        left
        rw [List.nil_append] at same
        subst same
        rw [List.append_nil]
        exact ⟨lead, .kind kind, rfl, rfl, .inl ⟨kind, rfl⟩⟩
    | cons first inner =>
        right
        obtain ⟨rfl, rest⟩ := List.cons.inj same
        exact ⟨leading, kind, inner, lead, rfl, rest⟩

theorem kindStart_behind_leading {leading : List Item} {source rest : List Char}
    (lead : Leading leading) (passed : Passed leading source rest) (solid : Solid rest) :
    kindStart source <:+ rest := by
  rcases lead with rfl | rfl
  · have skipped : skipLayout source = rest := layout_solid_iff.mp ⟨passed, solid⟩
    simp only [kindStart, skipped]
    split
    · next after found =>
        have here := keyword?_eq_some_iff.mp found
        exact (skipLayout_spec after).1.suffix.trans here.suffix
    · exact List.suffix_refl rest
  · obtain ⟨start, after, layout, here, between⟩ := passed
    exact ⟨[], kindStart_eq ⟨start, layout, after, here, rest, between, rfl⟩ solid⟩

theorem stuck_before_kind {leading : List Item} {source : List Char} {failure : Failure}
    (failed : readWindow source = .error failure) (lead : Leading leading)
    (passed : Passed leading source failure.rest) (solid : Solid failure.rest) :
    failure = ⟨.windowKind, kindStart source⟩ ∧ kind? failure.rest = none := by
  have behind := (kindStart_behind_leading lead passed solid).length_le
  rcases readWindow_error_iff.mp failed with ⟨rfl, missing⟩ | ⟨kind, after, here, failed⟩
  · exact ⟨rfl, missing⟩
  · have later := readRest_error_length failed
    have kindHere : (Item.kind kind).Here (kindStart source) after := here
    have shorter := kindHere.shorter
    omega

theorem due_of_failure {source : List Char} {failure : Failure}
    (failed : readWindow source = .error failure) (solid : Solid failure.rest)
    {due : Option Item} (there : Due source failure.rest due) :
    expectedAt due = failure.expected ∧ ¬ Present due failure.rest := by
  obtain ⟨done, later, clause, passed, rfl⟩ := there
  rcases clauseItems_split clause with
    ⟨lead, next, first, expected, form⟩ | ⟨leading, kind, inner, lead, rfl, split⟩
  · obtain ⟨same, missing⟩ := stuck_before_kind failed lead passed solid
    rw [first]
    refine ⟨by rw [same]; exact expected, ?_⟩
    rintro ⟨after, here⟩
    rcases form with ⟨kind, rfl⟩ | ⟨rfl, rfl⟩
    · rw [kind?_eq_some_iff.mpr here] at missing
      contradiction
    · -- A `WINDOW` here would have been dropped, and reading would have stopped behind it.
      obtain ⟨layout, between⟩ := skipLayout_spec after
      have start := kindStart_eq ⟨failure.rest, passed, after, here, _, layout, rfl⟩ between
      have rest : failure.rest = skipLayout after := by rw [same, start]
      have shorter := here.shorter
      have within := layout.suffix.length_le
      rw [rest] at shorter
      omega
  · have rest := readWindow_passed lead split passed
    rw [failed] at rest
    exact stuck_of_readRest rest.symm solid

theorem read_eq_error_iff {text : String} {failure : Failure} :
    Clause.read text = .error failure ↔ readWindow text.toList = .error failure := by
  simp only [Clause.read_eq, bind_eq_error_iff]
  constructor
  · rintro (failed | ⟨window, _, placed⟩)
    · exact failed
    · contradiction
  · exact .inl

/-! What is said of a failure. -/

def excerptAt (before rest : List Char) : String :=
  if '\n' ∈ before ++ rest then (Text.Excerpt.between before rest).text "parse error" 1
  else String.ofList (before ++ rest) ++ "\n" ++
    String.ofList (List.replicate (Text.byteLength before) ' ') ++ "^\n"

theorem description_injective {first second : Expected}
    (same : first.description = second.description) : first = second := by
  cases first <;> cases second <;> first | rfl | exact absurd same (by decide)

theorem advice_eq (expected : Expected) : expected.advice =
    if expected = .endOfClause then "" else "expected " ++ expected.description := by
  cases expected <;> rfl

theorem message_eq {text : String} {failure : Failure} {before : List Char}
    (split : text.toList = before ++ failure.rest) : failure.message text =
      "parse error: " ++ excerptAt before failure.rest ++ failure.expected.advice := by
  have offset : failure.offset text = Text.byteLength before := by
    rw [Failure.offset, split, byteLength_append, Nat.add_sub_cancel]
  have place : Text.Excerpt.before (before ++ failure.rest) failure.rest =
      Text.Excerpt.between before failure.rest := by
    rw [Text.Excerpt.before, List.length_append, Nat.add_sub_cancel, List.take_left]
  have whole : String.ofList (before ++ failure.rest) = text := by
    rw [← split, String.ofList_toList]
  simp only [Failure.message, excerptAt, split, place, offset, whole, List.contains_iff_mem]
  split <;> rfl

end StreamWindow
