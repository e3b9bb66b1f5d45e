import StreamWindow.Clause

/-! Explaining a clause in milliseconds. -/

namespace StreamWindow

/-- The lengths of a window, and into how many windows of its kind a record can fall. There is
no such number when the windows do not advance. -/
inductive Measurements
  | time (size advance : UInt64) (windowsPerRecord : Option UInt64)
  | session (gap : UInt64)
  deriving DecidableEq, Repr

structure Explanation where
  clause : Clause
  measurements : Measurements
  deriving DecidableEq, Repr

def Window.measure : Window → Except Violation Measurements
  | tumbling size => do
      let sizeMillis ← size.millis
      return .time sizeMillis sizeMillis (some 1)
  | hopping size advance => do
      let sizeMillis ← size.millis
      let advanceMillis ← advance.millis
      return .time sizeMillis advanceMillis
        (if 0 < advanceMillis then some (Word.stepsToCover sizeMillis advanceMillis) else none)
  | session gap => do
      return .session (← gap.millis)

def Clause.explain (clause : Clause) : Except Violation Explanation := do
  return ⟨clause, ← clause.window.measure⟩

namespace Measurements

def lines : Measurements → List String
  | time size advance windowsPerRecord =>
      [s!"  Size: {size}ms", s!"  Advance: {advance}ms"] ++
        windowsPerRecord.toList.map fun count => s!"  Windows per record: up to {count}"
  | session gap => [s!"  Inactivity gap: {gap}ms"]

end Measurements

namespace Explanation

def heading (explanation : Explanation) : String :=
  let kind := explanation.clause.window.kind.keyword
  match explanation.clause.location with
  | some location => s!"Window: {kind} (at {location.text})"
  | none => s!"Window: {kind}"

def text (explanation : Explanation) : String :=
  let lines := [explanation.heading, s!"  Clause: {explanation.clause.text}"] ++
    explanation.measurements.lines
  String.join (lines.map (· ++ "\n"))

end Explanation

end StreamWindow
