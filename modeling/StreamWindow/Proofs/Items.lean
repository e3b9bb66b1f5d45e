import StreamWindow.Proofs.Reading

/-!
A clause as a list of items. Which items follow one another depends only on the kind of window,
so that reading a clause is reading its kind and then walking through a fixed list.
-/

namespace StreamWindow

inductive Item
  | keyword (word : String) (expected : Expected)
      (letter : word.toList.head?.any (·.toUpper.isAlpha) = true := by decide)
  | symbol (char : Char) (expected : Expected)
      (visible : isSpace char = false ∧ char ≠ '-' := by decide)
  | magnitude
  | unit

namespace Item

def kind (kind : Window.Kind) : Item :=
  keyword kind.keyword .windowKind (kind_letter kind)

def expected : Item → Expected
  | keyword _ expected _ => expected
  | symbol _ expected _ => expected
  | magnitude => .magnitude
  | unit => .unit

def Here : Item → Piece
  | keyword word _ _ => Keyword word
  | symbol char _ _ => Symbol char
  | magnitude => fun source rest => (∃ value, Number value source rest) ∧ rest.head? ≠ some '.'
  | unit => fun source rest => ∃ unit, UnitWord unit source rest

def read? : Item → List Char → Option (List Char)
  | keyword word _ _ => keyword? word
  | symbol char _ _ => symbol? char
  | magnitude => fun source => (integer? source).map Prod.snd
  | unit => fun source => (unit? source).map Prod.snd

theorem read?_eq_some_iff {item : Item} {source rest : List Char} :
    item.read? source = some rest ↔ item.Here source rest := by
  cases item with
  | keyword word _ _ => exact keyword?_eq_some_iff
  | symbol char _ _ => exact symbol?_eq_some_iff
  | magnitude => simp [read?, Here, integer?_eq_some_iff]
  | unit => simp [read?, Here, unit?_eq_some_iff]

theorem read?_eq_none_iff {item : Item} {source : List Char} :
    item.read? source = none ↔ ∀ rest, ¬ item.Here source rest := by
  simp only [Option.eq_none_iff_forall_ne_some, ne_eq, read?_eq_some_iff]

theorem Here.solid {item : Item} {source rest : List Char} (here : item.Here source rest) :
    Solid source := by
  cases item with
  | keyword word _ letter => exact Keyword.solid here letter
  | symbol char _ visible =>
      obtain rfl : source = char :: rest := here
      exact solid_cons visible.1 visible.2
  | magnitude =>
      obtain ⟨⟨value, digits, run, _⟩, _⟩ := here
      exact run.solid (by decide)
  | unit =>
      obtain ⟨unit, word⟩ := here
      exact word.solid

theorem Here.split {item : Item} {source rest : List Char} (here : item.Here source rest) :
    ∃ text, source = text ++ rest ∧ text ≠ [] := by
  cases item with
  | keyword word _ letter =>
      obtain ⟨⟨spelling, split, spelled⟩, _⟩ := here
      refine ⟨spelling, split, ?_⟩
      rintro rfl
      rw [List.map_eq_nil_iff.mp spelled.symm] at letter
      contradiction
  | symbol char _ _ => exact ⟨[char], here, by simp⟩
  | magnitude =>
      obtain ⟨⟨value, digits, run, _⟩, _⟩ := here
      exact ⟨digits, run.split, run.filled⟩
  | unit =>
      obtain ⟨unit, word, run, _⟩ := here
      exact ⟨word, run.split, run.filled⟩

theorem Here.shorter {item : Item} {source rest : List Char} (here : item.Here source rest) :
    rest.length < source.length := by
  obtain ⟨text, rfl, filled⟩ := here.split
  have positive := List.length_pos_iff.mpr filled
  rw [List.length_append]
  omega

end Item

def itemsWithin : Window.Kind → List Item
  | .tumbling => [.keyword "SIZE" .sizeKeyword, .magnitude, .unit]
  | .hopping =>
      [.keyword "SIZE" .sizeKeyword, .magnitude, .unit, .symbol ',' .comma,
        .keyword "ADVANCE" .advanceBy, .keyword "BY" .advanceBy, .magnitude, .unit]
  | .session => [.magnitude, .unit]

def itemsAfter (kind : Window.Kind) : List Item :=
  .symbol '(' .openParen :: itemsWithin kind ++ [.symbol ')' .closeParen]

def Leading (items : List Item) : Prop :=
  items = [] ∨ items = [.keyword "WINDOW" .windowKind]

def ClauseItems (items : List Item) : Prop :=
  ∃ leading kind, Leading leading ∧ items = leading ++ .kind kind :: itemsAfter kind

/-- A text begins with the items in order, with layout before each and after the last. -/
def Passed : List Item → Piece
  | [], source, rest => Layout source rest
  | item :: items, source, rest =>
      ∃ start after, Layout source start ∧ item.Here start after ∧ Passed items after rest

theorem Passed.suffix {items : List Item} {source rest : List Char}
    (passed : Passed items source rest) : rest <:+ source := by
  induction items generalizing source with
  | nil => exact Layout.suffix passed
  | cons item items ih =>
      obtain ⟨start, after, layout, here, later⟩ := passed
      obtain ⟨text, split, _⟩ := here.split
      have behind : after <:+ start := ⟨text, split.symm⟩
      exact ((ih later).trans behind).trans layout.suffix

theorem Passed.of_layout {items : List Item} {source start rest : List Char}
    (layout : Layout source start) (passed : Passed items start rest) :
    Passed items source rest := by
  cases items with
  | nil => exact layout.trans passed
  | cons item items =>
      obtain ⟨begins, after, between, here, later⟩ := passed
      exact ⟨begins, after, layout.trans between, here, later⟩

theorem Passed.append {first second : List Item} {source middle rest : List Char}
    (passed : Passed first source middle) (later : Passed second middle rest) :
    Passed (first ++ second) source rest := by
  induction first generalizing source with
  | nil => exact later.of_layout passed
  | cons item first ih =>
      obtain ⟨start, after, layout, here, between⟩ := passed
      exact ⟨start, after, layout, here, ih between⟩

def walk : List Item → List Char → Except Failure (List Char)
  | [], source => pure source
  | next :: items, source => do
      let rest ← item next.expected next.read? source
      walk items rest

def finish (source : List Char) : Except Failure Unit :=
  match skipLayout source with
  | [] => .ok ()
  | rest => .error ⟨.endOfClause, rest⟩

def readRest (items : List Item) (source : List Char) : Except Failure Unit :=
  walk items source >>= finish

theorem walk_append (first second : List Item) (source : List Char) :
    walk (first ++ second) source = walk first source >>= walk second := by
  induction first generalizing source with
  | nil => rfl
  | cons next first ih => simp only [List.cons_append, walk, ih, bind_assoc]

theorem readDuration_walk (source : List Char) :
    Prod.snd <$> readDuration source = walk [.magnitude, .unit] source := by
  simp only [readDuration, walk, Item.expected, Item.read?, item_map, map_bind, bind_map_left,
    map_pure, bind_pure]
  simp

theorem readSize_walk (source : List Char) :
    Prod.snd <$> readSize source =
      walk [.keyword "SIZE" .sizeKeyword, .magnitude, .unit] source := by
  simp only [readSize, map_bind, readDuration_walk]
  rfl

theorem readAdvance_walk (source : List Char) :
    Prod.snd <$> readAdvance source =
      walk [.keyword "ADVANCE" .advanceBy, .keyword "BY" .advanceBy, .magnitude, .unit] source := by
  simp only [readAdvance, map_bind, readDuration_walk]
  rfl

theorem readBody_walk (kind : Window.Kind) (source : List Char) :
    Prod.snd <$> readBody kind source = walk (itemsWithin kind) source := by
  cases kind with
  | tumbling =>
      simp only [readBody, map_bind, map_pure, itemsWithin, ← readSize_walk]
      rfl
  | hopping =>
      have split : itemsWithin .hopping =
          [.keyword "SIZE" .sizeKeyword, .magnitude, .unit] ++ (.symbol ',' .comma ::
            [.keyword "ADVANCE" .advanceBy, .keyword "BY" .advanceBy, .magnitude, .unit]) := rfl
      rw [split, walk_append, ← readSize_walk]
      simp only [readBody, map_bind, bind_map_left, bind_pure_comp, Functor.map_map,
        readAdvance_walk]
      rfl
  | session =>
      simp only [readBody, map_bind, map_pure, itemsWithin, ← readDuration_walk]
      rfl

theorem readWindow_walk (source : List Char) :
    (fun _ => ()) <$> readWindow source =
      item .windowKind kind? (kindStart source) >>= fun found =>
        readRest (itemsAfter found.1) found.2 := by
  simp only [readWindow, map_bind, readRest, itemsAfter, walk_append, walk, ← readBody_walk,
    bind_assoc, bind_map_left, pure_bind, Item.expected, Item.read?]
  refine bind_congr fun found => bind_congr fun opened => bind_congr fun body =>
    bind_congr fun closed => ?_
  unfold finish
  cases skipLayout closed with
  | nil => rfl
  | cons char rest => rfl

theorem item_here_iff {next : Item} {source after : List Char} :
    item next.expected next.read? source = .ok after ↔
      ∃ start, Layout source start ∧ next.Here start after :=
  item_eq_ok_iff (fun _ => Item.read?_eq_some_iff) fun _ here => here.solid

theorem item_of_layout {α : Type} {expected : Expected} {read : List Char → Option α}
    {source start : List Char} (layout : Layout source start) :
    item expected read source = item expected read start := by
  unfold item
  rw [layout.skip_eq]

theorem readRest_nil (source : List Char) : readRest [] source = finish source := rfl

theorem readRest_cons (next : Item) (items : List Item) (source : List Char) :
    readRest (next :: items) source =
      item next.expected next.read? source >>= readRest items := by
  simp only [readRest, walk, bind_assoc]
  rfl

theorem readRest_of_layout (items : List Item) {source start : List Char}
    (layout : Layout source start) : readRest items source = readRest items start := by
  cases items with
  | nil =>
      simp only [readRest_nil, finish]
      rw [layout.skip_eq]
  | cons next items => rw [readRest_cons, readRest_cons, item_of_layout layout]

theorem readRest_passed {done later : List Item} {source rest : List Char}
    (passed : Passed done source rest) : readRest (done ++ later) source = readRest later rest := by
  induction done generalizing source with
  | nil => exact readRest_of_layout later passed
  | cons next done ih =>
      obtain ⟨start, after, layout, here, between⟩ := passed
      rw [List.cons_append, readRest_cons, item_here_iff.mpr ⟨start, layout, here⟩]
      exact ih between

theorem readRest_eq_ok_iff {items : List Item} {source : List Char} :
    readRest items source = .ok () ↔ Passed items source [] := by
  induction items generalizing source with
  | nil =>
      rw [readRest_nil, Passed, layout_end_iff]
      unfold finish
      cases skipLayout source with
      | nil => simp
      | cons char rest => simp
  | cons next items ih =>
      rw [readRest_cons, bind_eq_ok_iff]
      simp only [item_here_iff, ih]
      constructor
      · rintro ⟨after, ⟨start, layout, here⟩, later⟩
        exact ⟨start, after, layout, here, later⟩
      · rintro ⟨start, after, layout, here, later⟩
        exact ⟨after, ⟨start, layout, here⟩, later⟩

theorem passed_leading (source : List Char) :
    ∃ leading, Leading leading ∧ Passed leading source (kindStart source) := by
  rcases kindStart_spec source with layout | ⟨start, layout, after, here, rest, between, rfl⟩
  · exact ⟨[], .inl rfl, layout⟩
  · exact ⟨_, .inr rfl, start, after, layout, here, between⟩

theorem readWindow_passed {leading done later : List Item} {kind : Window.Kind}
    {source rest : List Char} (lead : Leading leading) (split : itemsAfter kind = done ++ later)
    (passed : Passed (leading ++ .kind kind :: done) source rest) :
    (fun _ => ()) <$> readWindow source = readRest later rest := by
  have kindRead : ∃ after, Keyword kind.keyword (kindStart source) after ∧
      Passed done after rest := by
    rcases lead with rfl | rfl
    · obtain ⟨start, after, layout, here, passed⟩ := passed
      rw [kindStart_of_kind layout here]
      exact ⟨after, here, passed⟩
    · obtain ⟨first, afterWindow, layout, windowHere, start, after, between, here, passed⟩ := passed
      rw [kindStart_eq ⟨first, layout, afterWindow, windowHere, start, between, rfl⟩ here.solid]
      exact ⟨after, here, passed⟩
  obtain ⟨after, here, passed⟩ := kindRead
  have found : item .windowKind kind? (kindStart source) = .ok (kind, after) :=
    item_kind_iff.mpr (sequence_pair.mpr ⟨_, .none _, here⟩)
  rw [readWindow_walk, found]
  change readRest (itemsAfter kind) after = readRest later rest
  rw [split]
  exact readRest_passed passed

theorem read_iff_passed {text : String} :
    (∃ clause, Clause.read text = .ok clause) ↔
      ∃ items, ClauseItems items ∧ Passed items text.toList [] := by
  constructor
  · rintro ⟨clause, read⟩
    rw [Clause.read_eq] at read
    obtain ⟨window, read, _⟩ := bind_eq_ok_iff.mp read
    have walked := readWindow_walk text.toList
    rw [read] at walked
    obtain ⟨⟨kind, after⟩, found, rest⟩ := bind_eq_ok_iff.mp walked.symm
    obtain ⟨leading, lead, before⟩ := passed_leading text.toList
    obtain ⟨start, layout, here⟩ := sequence_pair.mp (item_kind_iff.mp found)
    exact ⟨_, ⟨leading, kind, lead, rfl⟩,
      before.append ⟨start, after, layout, here, readRest_eq_ok_iff.mp rest⟩⟩
  · rintro ⟨_, ⟨leading, kind, lead, rfl⟩, passed⟩
    have rest := readWindow_passed lead (List.append_nil _).symm passed
    have ended : readRest [] [] = .ok () := rfl
    rw [ended] at rest
    cases read : readWindow text.toList with
    | error failure =>
        rw [read] at rest
        contradiction
    | ok window =>
        rw [Clause.read_eq]
        exact ⟨_, bind_eq_ok_iff.mpr ⟨window, read, rfl⟩⟩

end StreamWindow
