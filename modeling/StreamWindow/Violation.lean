import StreamWindow.Duration
import StreamWindow.Span

/-! The ways in which a window can be ill formed. -/

namespace StreamWindow

inductive Measure
  | size | advance | gap
  deriving DecidableEq, Repr

def Measure.name : Measure → String
  | size => "size"
  | advance => "advance"
  | gap => "gap"

inductive Violation
  | notPositive (measure : Measure)
  | advanceExceedsSize (sizeMillis advanceMillis : UInt64)
  | overflow (duration : Duration)
  | exceedsCap (measure : Measure) (millis capMillis : UInt64)
  deriving DecidableEq, Repr

def Violation.message : Violation → String
  | notPositive measure => s!"invalid window size: {measure.name} must be greater than zero"
  | advanceExceedsSize sizeMillis advanceMillis =>
      s!"invalid advance: {advanceMillis}ms exceeds window size {sizeMillis}ms"
  | overflow duration => s!"duration overflow: {duration.text} exceeds the millisecond range"
  | exceedsCap measure millis capMillis =>
      s!"window {measure.name} {millis}ms exceeds the configured maximum of {capMillis}ms"

def Duration.millis (duration : Duration) : Except Violation UInt64 :=
  match duration.millis? with
  | some millis => .ok millis
  | none => .error (.overflow duration)

def Duration.span (duration : Duration) : Except Violation Span := do
  return Span.ofMillis (← duration.millis)

end StreamWindow
