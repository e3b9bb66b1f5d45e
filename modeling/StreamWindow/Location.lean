import StreamWindow.Text.Measure

/-! Places in a source text, by line and by column. Both count from one, and a column counts
characters. -/

namespace StreamWindow

structure Location where
  line : Nat
  column : Nat
  deriving DecidableEq, Repr

namespace Location

def after (text : List Char) : Location :=
  ⟨text.count '\n' + 1, (Text.lastLine text).length + 1⟩

/-- The place of a byte offset; offsets past the end count as the end. -/
def ofOffset? (source : List Char) (offset : Nat) : Option Location :=
  (Text.bytePrefix? offset source).map after

def text (location : Location) : String :=
  s!"{location.line}:{location.column}"

end Location

end StreamWindow
