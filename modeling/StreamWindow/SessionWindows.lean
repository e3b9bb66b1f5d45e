import StreamWindow.Word

/-! Windows that stay open while records keep arriving within a gap of each other. -/

namespace StreamWindow

structure SessionWindows where
  gap : UInt64
  deriving DecidableEq, Hashable, Repr

namespace SessionWindows

def merges (windows : SessionWindows) (finish next : UInt64) : Bool :=
  next ≤ Word.clamp (finish.toNat + windows.gap.toNat)

def text (windows : SessionWindows) : String :=
  s!"SessionWindows(gap={windows.gap}ms)"

def debugText (windows : SessionWindows) : String :=
  s!"SessionWindows \x7b inactivity_gap_ms: {windows.gap} \x7d"

/-- Cutting the sum off at the largest word never changes the answer. -/
theorem merges_iff (windows : SessionWindows) (finish next : UInt64) :
    windows.merges finish next = true ↔
      next.toNat ≤ finish.toNat + windows.gap.toNat := by
  have bound := Word.toNat_le_largest next
  simp only [merges, decide_eq_true_eq, UInt64.le_iff_toNat_le, Word.toNat_clamp]
  omega

end SessionWindows

end StreamWindow
