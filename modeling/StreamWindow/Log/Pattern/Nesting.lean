/-! How deep the parts of a pattern nest. A single part is as deep as it is; several parts that
stand next to each other make up a part of their own around them. -/

namespace StreamWindow.Pattern

def deepest : Nat := 250

/-- Parts next to each other, of which the depths are known. -/
structure Row where
  count : Nat := 0
  before : Nat := 0
  last : Nat := 0

namespace Row

def add (row : Row) (depth : Nat) : Row :=
  ⟨row.count + 1, max row.before row.last, depth⟩

def wrapLast (row : Row) : Row :=
  { row with last := row.last + 1 }

def depth (row : Row) : Nat :=
  let inner := max row.before row.last
  if 1 < row.count then inner + 1 else inner

end Row

end StreamWindow.Pattern
