import StreamWindow.Proofs.Descent
import StreamWindow.Proofs.Fallible
import StreamWindow.Proofs.Grammar
import StreamWindow.Proofs.Measure

/-!
The reader measured against the grammar: it accepts exactly the texts of the grammar, and returns
the window that the grammar derives.
-/

namespace StreamWindow

theorem item_eq_ok_iff {α : Type} {expected : Expected} {read : List Char → Option α}
    {piece : List Char → Prop} {found : α} {source : List Char}
    (exact : ∀ start, read start = some found ↔ piece start)
    (solid : ∀ start, piece start → Solid start) :
    item expected read source = .ok found ↔ ∃ start, Layout source start ∧ piece start := by
  have opened : item expected read source = .ok found ↔ read (skipLayout source) = some found := by
    unfold item
    split <;> simp_all
  rw [opened, exact]
  constructor
  · intro here
    exact ⟨skipLayout source, (skipLayout_spec source).1, here⟩
  · rintro ⟨start, layout, here⟩
    rwa [layout_solid_iff.mp ⟨layout, solid start here⟩]

theorem solid_cons {first : Char} {rest : List Char} (noSpace : isSpace first = false)
    (noDash : first ≠ '-') : Solid (first :: rest) := by
  refine ⟨by simpa using noSpace, ?_⟩
  rintro ⟨tail, same⟩
  exact noDash (List.cons.inj same).1.symm

theorem solid_of_class {belongs : Char → Bool} {first : Char} {rest : List Char}
    (outside : [' ', '\t', '\r', '\n', '-'].any belongs = false)
    (inside : belongs first = true) : Solid (first :: rest) := by
  have noLayout : first ∉ [' ', '\t', '\r', '\n', '-'] := by
    intro member
    exact List.any_eq_false.mp outside first member inside
  simp only [List.mem_cons, List.not_mem_nil, or_false, not_or] at noLayout
  refine solid_cons ?_ noLayout.2.2.2.2
  simp [isSpace, noLayout]

theorem Run.solid {belongs : Char → Bool} {run source rest : List Char}
    (here : Run belongs run source rest)
    (outside : [' ', '\t', '\r', '\n', '-'].any belongs = false) : Solid source := by
  obtain ⟨rfl, filled, inside, _⟩ := here
  cases run with
  | nil => exact absurd rfl filled
  | cons first run => exact solid_of_class outside (inside first List.mem_cons_self)

theorem Keyword.head_eq {word : String} {source rest : List Char} (here : Keyword word source rest)
    (filled : word.toList ≠ []) :
    source.head?.map Char.toUpper = word.toList.head?.map Char.toUpper := by
  obtain ⟨⟨spelling, rfl, spelled⟩, _⟩ := here
  cases spelling with
  | nil => exact absurd (List.map_eq_nil_iff.mp spelled.symm) filled
  | cons first spelling =>
      rw [← List.head?_map, ← List.head?_map, ← spelled]
      rfl

theorem Keyword.solid {word : String} {source rest : List Char} (here : Keyword word source rest)
    (letter : word.toList.head?.any (·.toUpper.isAlpha) = true) : Solid source := by
  obtain ⟨first, head, capital⟩ := (Option.any_eq_true _ _).mp letter
  have filled : word.toList ≠ [] := by
    intro empty
    simp [empty] at head
  have same := here.head_eq filled
  rw [head] at same
  cases source with
  | nil => simp at same
  | cons char source =>
      have alike : char.toUpper = first.toUpper := by simpa using same
      have outside : [' ', '\t', '\r', '\n', '-'].any (·.toUpper.isAlpha) = false := by decide
      exact solid_of_class outside (alike ▸ capital)

theorem item_keyword_iff {expected : Expected} {word : String} {source rest : List Char}
    (letter : word.toList.head?.any (·.toUpper.isAlpha) = true) :
    item expected (keyword? word) source = .ok rest ↔
      Sequence [Layout, Keyword word] source rest := by
  rw [sequence_pair]
  exact item_eq_ok_iff (fun _ => keyword?_eq_some_iff) fun _ here => here.solid letter

theorem item_symbol_iff {expected : Expected} {char : Char} {source rest : List Char}
    (noSpace : isSpace char = false) (noDash : char ≠ '-') :
    item expected (symbol? char) source = .ok rest ↔
      Sequence [Layout, Symbol char] source rest := by
  rw [sequence_pair]
  refine item_eq_ok_iff (fun _ => symbol?_eq_some_iff) ?_
  rintro start rfl
  exact solid_cons noSpace noDash

theorem item_integer_iff {expected : Expected} {value : UInt64} {source rest : List Char} :
    item expected integer? source = .ok (value, rest) ↔
      Sequence [Layout, Number value] source rest ∧ rest.head? ≠ some '.' := by
  rw [item_eq_ok_iff (fun _ => integer?_eq_some_iff), sequence_pair]
  · constructor
    · rintro ⟨start, layout, here, noFraction⟩
      exact ⟨⟨start, layout, here⟩, noFraction⟩
    · rintro ⟨⟨start, layout, here⟩, noFraction⟩
      exact ⟨start, layout, here, noFraction⟩
  · rintro start ⟨⟨digits, run, _⟩, _⟩
    exact run.solid (by decide)

theorem UnitWord.solid {unit : TimeUnit} {source rest : List Char}
    (here : UnitWord unit source rest) : Solid source := by
  obtain ⟨word, run, _⟩ := here
  exact run.solid (by decide)

theorem item_unit_iff {expected : Expected} {unit : TimeUnit} {source rest : List Char} :
    item expected unit? source = .ok (unit, rest) ↔
      Sequence [Layout, UnitWord unit] source rest := by
  rw [sequence_pair]
  exact item_eq_ok_iff (fun _ => unit?_eq_some_iff) fun _ here => here.solid

theorem head_ne_point {unit : TimeUnit} {source rest : List Char}
    (here : Sequence [Layout, UnitWord unit] source rest) : source.head? ≠ some '.' := by
  obtain ⟨start, layout, ⟨word, run, _⟩⟩ := sequence_pair.mp here
  cases layout with
  | none =>
      obtain ⟨rfl, filled, inside, _⟩ := run
      cases word with
      | nil => exact absurd rfl filled
      | cons first word =>
          rintro ⟨rfl⟩
          exact absurd (inside '.' List.mem_cons_self) (by decide)
  | space space _ =>
      rintro ⟨rfl⟩
      exact absurd space (by decide)
  | comment _ _ _ =>
      rintro ⟨⟩

theorem readDuration_iff {duration : Duration} {source rest : List Char} :
    readDuration source = .ok (duration, rest) ↔
      Sequence [Layout, DurationText duration] source rest := by
  simp only [readDuration, bind_eq_ok_iff, Prod.exists, item_integer_iff, item_unit_iff,
    DurationText, Sequence, exists_eq_right]
  constructor
  · rintro ⟨value, middle, ⟨⟨start, layout, number⟩, _⟩, unit, stop, ⟨word, between, named⟩, same⟩
    obtain ⟨rfl, rfl⟩ := Prod.mk.inj (Except.ok.inj same)
    exact ⟨start, layout, middle, number, word, between, named⟩
  · rintro ⟨start, layout, middle, number, word, between, named⟩
    have noFraction := head_ne_point (sequence_pair.mpr ⟨word, between, named⟩)
    exact ⟨_, middle, ⟨⟨start, layout, number⟩, noFraction⟩, _, _, ⟨word, between, named⟩, rfl⟩

theorem readSize_iff {size : Duration} {source rest : List Char} :
    readSize source = .ok (size, rest) ↔
      Sequence [Layout, Keyword "SIZE", Layout, DurationText size] source rest := by
  simp (disch := decide) only [readSize, bind_eq_ok_iff, item_keyword_iff, readDuration_iff]
  exact (sequence_append [_, _] [_, _]).symm

theorem readAdvance_iff {advance : Duration} {source rest : List Char} :
    readAdvance source = .ok (advance, rest) ↔
      Sequence [Layout, Keyword "ADVANCE", Layout, Keyword "BY", Layout, DurationText advance]
        source rest := by
  simp (disch := decide) only [readAdvance, bind_eq_ok_iff, item_keyword_iff, readDuration_iff,
    ← sequence_append]
  rfl

theorem Window.kind_eq_tumbling {window : Window} (kind : window.kind = .tumbling) :
    ∃ size, window = .tumbling size := by
  cases window with
  | tumbling size => exact ⟨size, rfl⟩
  | hopping size advance => contradiction
  | session gap => contradiction

theorem Window.kind_eq_hopping {window : Window} (kind : window.kind = .hopping) :
    ∃ size advance, window = .hopping size advance := by
  cases window with
  | tumbling size => contradiction
  | hopping size advance => exact ⟨size, advance, rfl⟩
  | session gap => contradiction

theorem Window.kind_eq_session {window : Window} (kind : window.kind = .session) :
    ∃ gap, window = .session gap := by
  cases window with
  | tumbling size => contradiction
  | hopping size advance => contradiction
  | session gap => exact ⟨gap, rfl⟩

theorem readBody_iff {kind : Window.Kind} {window : Window} {source rest : List Char} :
    readBody kind source = .ok (window, rest) ↔
      window.kind = kind ∧ Sequence (bodyPieces window) source rest := by
  cases kind with
  | tumbling =>
      simp only [readBody, bind_eq_ok_iff, Prod.exists, readSize_iff]
      constructor
      · rintro ⟨size, stop, here, same⟩
        obtain ⟨rfl, rfl⟩ := Prod.mk.inj (Except.ok.inj same)
        exact ⟨rfl, here⟩
      · rintro ⟨kind, here⟩
        obtain ⟨size, rfl⟩ := Window.kind_eq_tumbling kind
        exact ⟨size, rest, here, rfl⟩
  | hopping =>
      simp (disch := decide) only [readBody, bind_eq_ok_iff, Prod.exists, readSize_iff,
        item_symbol_iff, readAdvance_iff]
      constructor
      · rintro ⟨size, afterSize, sized, afterComma, comma, advance, stop, advanced, same⟩
        obtain ⟨rfl, rfl⟩ := Prod.mk.inj (Except.ok.inj same)
        refine ⟨rfl, (sequence_append [_, _, _, _] _).mpr ⟨afterSize, sized, ?_⟩⟩
        exact (sequence_append [_, _] _).mpr ⟨afterComma, comma, advanced⟩
      · rintro ⟨kind, here⟩
        obtain ⟨size, advance, rfl⟩ := Window.kind_eq_hopping kind
        obtain ⟨afterSize, sized, later⟩ := (sequence_append [_, _, _, _] _).mp here
        obtain ⟨afterComma, comma, advanced⟩ := (sequence_append [_, _] _).mp later
        exact ⟨size, afterSize, sized, afterComma, comma, advance, rest, advanced, rfl⟩
  | session =>
      simp only [readBody, bind_eq_ok_iff, Prod.exists, readDuration_iff]
      constructor
      · rintro ⟨gap, stop, here, same⟩
        obtain ⟨rfl, rfl⟩ := Prod.mk.inj (Except.ok.inj same)
        exact ⟨rfl, here⟩
      · rintro ⟨kind, here⟩
        obtain ⟨gap, rfl⟩ := Window.kind_eq_session kind
        exact ⟨gap, rest, here, rfl⟩

theorem Keyword.excludes {word other : String} {source rest : List Char}
    (here : Keyword word source rest) (filled : word.toList ≠ []) (otherFilled : other.toList ≠ [])
    (different : word.toList.head?.map Char.toUpper ≠ other.toList.head?.map Char.toUpper) :
    keyword? other source = none := by
  rw [Option.eq_none_iff_forall_ne_some]
  intro after found
  have there := keyword?_eq_some_iff.mp found
  exact different ((here.head_eq filled).symm.trans (there.head_eq otherFilled))

theorem kind?_eq_some_iff {kind : Window.Kind} {source rest : List Char} :
    kind? source = some (kind, rest) ↔ Keyword kind.keyword source rest := by
  constructor
  · intro found
    obtain ⟨tried, _, read⟩ := List.exists_of_findSome?_eq_some found
    obtain ⟨after, keyword, same⟩ := Option.map_eq_some_iff.mp read
    obtain ⟨rfl, rfl⟩ := Prod.mk.inj same
    exact keyword?_eq_some_iff.mp keyword
  · intro here
    have found := keyword?_eq_some_iff.mpr here
    unfold kind?
    cases kind with
    | tumbling => simp [List.findSome?, found]
    | hopping =>
        have noTumbling : keyword? Window.Kind.tumbling.keyword source = none :=
          here.excludes (by decide) (by decide) (by decide)
        simp [List.findSome?, noTumbling, found]
    | session =>
        have noTumbling : keyword? Window.Kind.tumbling.keyword source = none :=
          here.excludes (by decide) (by decide) (by decide)
        have noHopping : keyword? Window.Kind.hopping.keyword source = none :=
          here.excludes (by decide) (by decide) (by decide)
        simp [List.findSome?, noTumbling, noHopping, found]

theorem kindStart_eq {source rest : List Char}
    (here : Sequence [Layout, Keyword "WINDOW", Layout] source rest) (solid : Solid rest) :
    kindStart source = rest := by
  obtain ⟨start, layout, after, keyword, _, between, rfl⟩ := here
  have skipped := layout_solid_iff.mp ⟨layout, keyword.solid (by decide)⟩
  simp only [kindStart, skipped, keyword?_eq_some_iff.mpr keyword]
  exact layout_solid_iff.mp ⟨between, solid⟩

theorem kind_letter (kind : Window.Kind) :
    kind.keyword.toList.head?.any (·.toUpper.isAlpha) = true := by
  cases kind <;> decide

theorem kindStart_of_kind {kind : Window.Kind} {source start rest : List Char}
    (layout : Layout source start) (here : Keyword kind.keyword start rest) :
    kindStart source = start := by
  have noWindow : keyword? "WINDOW" start = none := by
    cases kind <;> exact here.excludes (by decide) (by decide) (by decide)
  have skipped := layout_solid_iff.mp ⟨layout, here.solid (kind_letter kind)⟩
  simp only [kindStart, skipped, noWindow]

theorem kindStart_spec (source : List Char) :
    Layout source (kindStart source) ∨
      Sequence [Layout, Keyword "WINDOW", Layout] source (kindStart source) := by
  have start := (skipLayout_spec source).1
  simp only [kindStart]
  split
  · next rest found =>
      have keyword := keyword?_eq_some_iff.mp found
      exact .inr ⟨_, start, rest, keyword, _, (skipLayout_spec rest).1, rfl⟩
  · exact .inl start

theorem item_kind_iff {kind : Window.Kind} {source rest : List Char} :
    item .windowKind kind? source = .ok (kind, rest) ↔
      Sequence [Layout, Keyword kind.keyword] source rest := by
  rw [sequence_pair]
  exact item_eq_ok_iff (fun _ => kind?_eq_some_iff) fun _ here => here.solid (kind_letter kind)

theorem layout_end_iff {source : List Char} : Layout source [] ↔ skipLayout source = [] := by
  rw [← layout_solid_iff]
  exact (and_iff_left ⟨by simp, by simp⟩).symm

theorem readWindow_iff_kindStart {window : Window} {source : List Char} :
    readWindow source = .ok window ↔
      Sequence [Layout, WindowText window, Layout] (kindStart source) [] := by
  simp (disch := decide) only [readWindow, bind_eq_ok_iff, Prod.exists, item_kind_iff,
    item_symbol_iff, readBody_iff]
  constructor
  · rintro ⟨kind, afterKind, ⟨start, layout, _, kindWord, rfl⟩, afterOpen, opened, read, afterBody,
      ⟨rfl, body⟩, afterClose, closed, finished⟩
    split at finished
    · next ended =>
        obtain rfl := Except.ok.inj finished
        refine ⟨start, layout, afterClose, ?_, _, layout_end_iff.mpr ended, rfl⟩
        rw [windowText_eq, List.append_assoc]
        refine (sequence_append [_, _, _] _).mpr ⟨afterOpen, ⟨_, kindWord, opened⟩, ?_⟩
        exact (sequence_append _ _).mpr ⟨afterBody, body, closed⟩
    · contradiction
  · rintro ⟨start, layout, afterClose, text, _, ended, rfl⟩
    rw [windowText_eq, List.append_assoc] at text
    obtain ⟨afterOpen, ⟨_, kindWord, opened⟩, later⟩ := (sequence_append [_, _, _] _).mp text
    obtain ⟨afterBody, body, closed⟩ := (sequence_append _ _).mp later
    refine ⟨_, _, ⟨start, layout, _, kindWord, rfl⟩, afterOpen, opened, window, afterBody,
      ⟨rfl, body⟩, afterClose, closed, ?_⟩
    rw [layout_end_iff.mp ended]
    rfl

theorem windowText_kind {window : Window} {source rest : List Char}
    (text : WindowText window source rest) :
    ∃ after, Keyword window.kind.keyword source after := by
  rw [windowText_eq] at text
  obtain ⟨after, kind, _⟩ := text
  exact ⟨after, kind⟩

theorem readWindow_iff {window : Window} {source : List Char} :
    readWindow source = .ok window ↔ ClauseText window source := by
  rw [readWindow_iff_kindStart]
  constructor
  · rintro ⟨start, layout, later⟩
    rcases kindStart_spec source with leading | ⟨first, leading, after, keyword, _, between, rfl⟩
    · exact .inl ⟨start, leading.trans layout, later⟩
    · exact .inr ⟨first, leading, after, keyword, start, between.trans layout, later⟩
  · rintro (⟨start, layout, afterText, text, ended⟩ |
      ⟨first, leading, after, keyword, start, between, afterText, text, ended⟩)
    · obtain ⟨after, kind⟩ := windowText_kind text
      rw [kindStart_of_kind layout kind]
      exact ⟨start, .none start, afterText, text, ended⟩
    · obtain ⟨_, kind⟩ := windowText_kind text
      have solid := kind.solid (kind_letter window.kind)
      rw [kindStart_eq ⟨first, leading, after, keyword, start, between, rfl⟩ solid]
      exact ⟨start, .none start, afterText, text, ended⟩

theorem Keyword.suffix {word : String} {source rest : List Char} (here : Keyword word source rest) :
    rest <:+ source := by
  obtain ⟨⟨spelling, split, _⟩, _⟩ := here
  exact ⟨spelling, split.symm⟩

theorem kindStart_suffix (source : List Char) : kindStart source <:+ source := by
  rcases kindStart_spec source with layout | ⟨start, leading, after, keyword, rest, between, same⟩
  · exact layout.suffix
  · obtain rfl : rest = kindStart source := same
    exact (between.suffix.trans keyword.suffix).trans leading.suffix

theorem read_iff {text : String} {clause : Clause} :
    Clause.read text = .ok clause ↔
      ∃ before, text.toList = before ++ kindStart text.toList ∧
        ClauseText clause.window text.toList ∧
        clause.location = some (Location.after before) := by
  obtain ⟨before, split⟩ := kindStart_suffix text.toList
  have place := ofOffset?_append before (kindStart text.toList)
  rw [split] at place
  simp only [Clause.read_eq, bind_eq_ok_iff, readWindow_iff, place]
  constructor
  · rintro ⟨window, derived, same⟩
    obtain rfl := Except.ok.inj same
    exact ⟨before, split.symm, derived, rfl⟩
  · rintro ⟨start, splitToo, derived, location⟩
    obtain rfl : before = start := List.append_cancel_right (split.trans splitToo)
    obtain ⟨window, found⟩ := clause
    exact ⟨window, derived, by rw [show found = _ from location]⟩

theorem clauseText_unique {first second : Window} {source : List Char}
    (firstDerived : ClauseText first source) (secondDerived : ClauseText second source) :
    first = second := by
  have read := (readWindow_iff.mpr firstDerived).symm.trans (readWindow_iff.mpr secondDerived)
  exact Except.ok.inj read

/-- A text is read exactly when the grammar derives it, and then as the one window that it
derives. The clause is always placed somewhere. -/
theorem read_accepts_grammar (text : String) :
    (∀ window, (∃ clause, Clause.read text = .ok clause ∧ clause.window = window) ↔
      ClauseText window text.toList) ∧
    (∀ clause, Clause.read text = .ok clause → clause.location.isSome = true) ∧
    (∀ first second, ClauseText first text.toList → ClauseText second text.toList →
      first = second) := by
  refine ⟨fun window => ⟨?_, ?_⟩, ?_, fun _ _ => clauseText_unique⟩
  · rintro ⟨clause, read, rfl⟩
    obtain ⟨_, _, derived, _⟩ := read_iff.mp read
    exact derived
  · intro derived
    obtain ⟨before, split⟩ := kindStart_suffix text.toList
    exact ⟨⟨window, some (Location.after before)⟩,
      read_iff.mpr ⟨before, split.symm, derived, rfl⟩, rfl⟩
  · intro clause read
    obtain ⟨_, _, _, location⟩ := read_iff.mp read
    rw [location]
    rfl

end StreamWindow
