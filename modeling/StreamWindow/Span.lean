/-! Lengths of time as whole seconds and a fraction in nanoseconds. -/

namespace StreamWindow

structure Span where
  seconds : UInt64
  nanos : Nat
  nanos_lt : nanos < 1000000000
  deriving DecidableEq

namespace Span

def ofMillis (millis : UInt64) : Span where
  seconds := millis / 1000
  nanos := millis.toNat % 1000 * 1000000
  nanos_lt := by
    have bound := Nat.mod_lt millis.toNat (show 0 < 1000 by decide)
    omega

def millis (span : Span) : Nat :=
  span.seconds.toNat * 1000 + span.nanos / 1000000

def exactNanos (span : Span) : Nat :=
  span.seconds.toNat * 1000000000 + span.nanos

def isZero (span : Span) : Bool :=
  span.seconds == 0 && span.nanos == 0

theorem millis_ofMillis (millis : UInt64) : (ofMillis millis).millis = millis.toNat := by
  simp only [ofMillis, Span.millis, UInt64.toNat_div, UInt64.reduceToNat]
  omega

theorem millis_eq_exactNanos_div (span : Span) : span.millis = span.exactNanos / 1000000 := by
  unfold millis exactNanos
  omega

end Span

end StreamWindow
