import StreamWindow.Proofs.Lexemes

/-! The grammar of window clauses. -/

namespace StreamWindow

def Sequence : List Piece → Piece
  | [], source, rest => source = rest
  | piece :: pieces, source, rest => ∃ middle, piece source middle ∧ Sequence pieces middle rest

def DurationText (duration : Duration) : Piece :=
  Sequence [Number duration.magnitude, Layout, UnitWord duration.unit]

def WindowText : Window → Piece
  | .tumbling size =>
      Sequence [Keyword "TUMBLING", Layout, Symbol '(', Layout, Keyword "SIZE", Layout,
        DurationText size, Layout, Symbol ')']
  | .hopping size advance =>
      Sequence [Keyword "HOPPING", Layout, Symbol '(', Layout, Keyword "SIZE", Layout,
        DurationText size, Layout, Symbol ',', Layout, Keyword "ADVANCE", Layout, Keyword "BY",
        Layout, DurationText advance, Layout, Symbol ')']
  | .session gap =>
      Sequence [Keyword "SESSION", Layout, Symbol '(', Layout, DurationText gap, Layout,
        Symbol ')']

/-- A whole text that is one clause: a window with layout around it, and perhaps the keyword
`WINDOW` before it. -/
def ClauseText (window : Window) (source : List Char) : Prop :=
  Sequence [Layout, WindowText window, Layout] source [] ∨
    Sequence [Layout, Keyword "WINDOW", Layout, WindowText window, Layout] source []

def bodyPieces : Window → List Piece
  | .tumbling size => [Layout, Keyword "SIZE", Layout, DurationText size]
  | .hopping size advance =>
      [Layout, Keyword "SIZE", Layout, DurationText size, Layout, Symbol ',', Layout,
        Keyword "ADVANCE", Layout, Keyword "BY", Layout, DurationText advance]
  | .session gap => [Layout, DurationText gap]

theorem windowText_eq (window : Window) :
    WindowText window = Sequence ([Keyword window.kind.keyword, Layout, Symbol '('] ++
      bodyPieces window ++ [Layout, Symbol ')']) := by
  cases window <;> rfl

theorem sequence_append (first second : List Piece) {source rest : List Char} :
    Sequence (first ++ second) source rest ↔
      ∃ middle, Sequence first source middle ∧ Sequence second middle rest := by
  induction first generalizing source with
  | nil => simp [Sequence]
  | cons piece first ih =>
      simp only [List.cons_append, Sequence, ih]
      constructor
      · rintro ⟨start, here, middle, later, last⟩
        exact ⟨middle, ⟨start, here, later⟩, last⟩
      · rintro ⟨middle, ⟨start, here, later⟩, last⟩
        exact ⟨start, here, middle, later, last⟩

theorem sequence_pair {first second : Piece} {source rest : List Char} :
    Sequence [first, second] source rest ↔ ∃ middle, first source middle ∧ second middle rest := by
  simp [Sequence]

end StreamWindow
