import StreamWindow.Word

/-! Windows of a fixed size that start at the multiples of an advance. Windows that advance by
their size tile the time; a smaller advance makes them overlap. -/

namespace StreamWindow

structure WindowBounds where
  start : UInt64
  finish : UInt64
  deriving DecidableEq, Hashable, Repr

namespace WindowBounds

def contains (bounds : WindowBounds) (timestamp : UInt64) : Bool :=
  bounds.start ≤ timestamp && timestamp < bounds.finish

instance : Ord WindowBounds where
  compare := compareLex (compareOn start) (compareOn finish)

def text (bounds : WindowBounds) : String :=
  s!"[{bounds.start}, {bounds.finish})"

theorem contains_iff (bounds : WindowBounds) (timestamp : UInt64) :
    bounds.contains timestamp = true ↔
      bounds.start.toNat ≤ timestamp.toNat ∧ timestamp.toNat < bounds.finish.toNat := by
  simp [contains, UInt64.le_iff_toNat_le, UInt64.lt_iff_toNat_lt]

end WindowBounds

structure TimeWindows where
  size : UInt64
  advance : UInt64
  deriving DecidableEq, Hashable, Repr

namespace TimeWindows

def tumbling (size : UInt64) : TimeWindows :=
  ⟨size, size⟩

def advanceBy (windows : TimeWindows) (advance : UInt64) : TimeWindows :=
  { windows with advance }

def isTumbling (windows : TimeWindows) : Bool :=
  windows.size == windows.advance

theorem advance_positive {windows : TimeWindows} (advanced : windows.advance ≠ 0) :
    0 < windows.advance.toNat := by
  apply Nat.pos_of_ne_zero
  intro zero
  exact advanced (UInt64.toNat_inj.mp zero)

def starting (windows : TimeWindows) (start : UInt64) : WindowBounds :=
  ⟨start, Word.clamp (start.toNat + windows.size.toNat)⟩

theorem next_later {windows : TimeWindows} (advanced : windows.advance ≠ 0) {start next : UInt64}
    (stepped : Word.sum? start windows.advance = some next) : start.toNat < next.toNat := by
  rw [Word.sum?_eq_fit?, Word.fit?_eq_some_iff] at stepped
  have positive := advance_positive advanced
  omega

/-- The windows that contain the timestamp, of those that start at the given place or any number
of advances behind it. There are no starts beyond the timestamp, nor any that no word holds. -/
def windowsFrom (windows : TimeWindows) (advanced : windows.advance ≠ 0)
    (timestamp start : UInt64) : List WindowBounds :=
  if reached : start ≤ timestamp then
    let found := [windows.starting start].filter (·.contains timestamp)
    match stepped : Word.sum? start windows.advance with
    | some next =>
        have := next_later advanced stepped
        have := UInt64.le_iff_toNat_le.mp reached
        found ++ windows.windowsFrom advanced timestamp next
    | none => found
  else []
termination_by timestamp.toNat + 1 - start.toNat

/-- All windows that contain the timestamp, earliest first. Empty windows contain nothing, and
windows that do not advance are none. -/
def windowsFor (windows : TimeWindows) (timestamp : UInt64) : List WindowBounds :=
  if empty : windows.size = 0 ∨ windows.advance = 0 then []
  else
    let reach := Word.clamp (timestamp.toNat + windows.advance.toNat)
    let earliest := Word.clamp (reach.toNat - windows.size.toNat)
    let first := earliest / windows.advance * windows.advance
    windows.windowsFrom (fun still => empty (.inr still)) timestamp first

def maxWindowsPerRecord (windows : TimeWindows) : UInt64 :=
  if windows.advance = 0 then 0 else Word.stepsToCover windows.size windows.advance

def text (windows : TimeWindows) : String :=
  s!"TimeWindows(size={windows.size}ms, advance={windows.advance}ms)"

def debugText (windows : TimeWindows) : String :=
  s!"TimeWindows \x7b size_ms: {windows.size}, advance_ms: {windows.advance} \x7d"

end TimeWindows

end StreamWindow
