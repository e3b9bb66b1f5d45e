import StreamWindow.TimeWindows
import StreamWindow.SessionWindows
import StreamWindow.Window

/-! Window descriptors, in which all lengths are milliseconds, and lowering a window to one. -/

namespace StreamWindow

inductive Descriptor
  | time (windows : TimeWindows)
  | session (windows : SessionWindows)
  deriving DecidableEq, Repr

namespace Descriptor

def isSession : Descriptor → Bool
  | time _ => false
  | session _ => true

def text : Descriptor → String
  | time windows => windows.text
  | session windows => windows.text

def debugText : Descriptor → String
  | time windows => s!"Time({windows.debugText})"
  | session windows => s!"Session({windows.debugText})"

end Descriptor

/-- The descriptor of a window. The window is trusted to have been validated: only a length
that no word holds is reported. -/
def Window.lower : Window → Except Violation Descriptor
  | tumbling size => do
      return .time (TimeWindows.tumbling (← size.millis))
  | hopping size advance => do
      let sizeMillis ← size.millis
      let advanceMillis ← advance.millis
      return .time ((TimeWindows.tumbling sizeMillis).advanceBy advanceMillis)
  | session gap => do
      return .session ⟨← gap.millis⟩

end StreamWindow
