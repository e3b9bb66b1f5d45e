import Std.Data.HashSet
import StreamWindow.Duration

/-! Lists of values that can be alike without being equal. -/

namespace StreamWindow

variable {α : Type}

def distinctCount [BEq α] [Hashable α] (values : List α) : Nat :=
  (Std.HashSet.ofList values).size

def firstAlike [BEq α] (values : List α) : List Nat :=
  values.map fun value => values.findIdx (· == value)

/-- The positions of durations from the shortest to the longest; durations that are alike keep
their order. -/
def Duration.sortedPositions (durations : List Duration) : List Nat :=
  let sorted := durations.zipIdx.mergeSort fun first second =>
    first.1.exactMillis ≤ second.1.exactMillis
  sorted.map Prod.snd

end StreamWindow
