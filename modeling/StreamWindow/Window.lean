import StreamWindow.Violation

/-! The windows that an aggregation can be grouped by. Windows of different kinds are never
alike; windows of one kind are alike when their durations are equally long. -/

namespace StreamWindow

inductive Window
  | tumbling (size : Duration)
  | hopping (size advance : Duration)
  | session (gap : Duration)
  deriving DecidableEq, Repr

namespace Window

inductive Kind
  | tumbling | hopping | session
  deriving DecidableEq, Repr

def Kind.keyword : Kind → String
  | tumbling => "TUMBLING"
  | hopping => "HOPPING"
  | session => "SESSION"

def kind : Window → Kind
  | tumbling _ => .tumbling
  | hopping _ _ => .hopping
  | session _ => .session

def text : Window → String
  | tumbling size => s!"TUMBLING ( SIZE {size.text} )"
  | hopping size advance => s!"HOPPING ( SIZE {size.text} , ADVANCE BY {advance.text} )"
  | session gap => s!"SESSION ( {gap.text} )"

def extent : Window → Measure × Duration
  | tumbling size => (.size, size)
  | hopping size _ => (.size, size)
  | session gap => (.gap, gap)

def requirePositive (measure : Measure) (duration : Duration) : Except Violation Unit :=
  if duration.isZero then .error (.notPositive measure) else .ok ()

/-- Overflow is looked for in both durations before either is compared with zero. -/
def validate : Window → Except Violation Unit
  | tumbling size => do
      let _ ← size.millis
      requirePositive .size size
  | hopping size advance => do
      let sizeMillis ← size.millis
      let advanceMillis ← advance.millis
      requirePositive .size size
      requirePositive .advance advance
      if sizeMillis < advanceMillis then
        .error (.advanceExceedsSize sizeMillis advanceMillis)
      else .ok ()
  | session gap => do
      let _ ← gap.millis
      requirePositive .gap gap

def lengths : Window → Kind × List Nat
  | tumbling size => (.tumbling, [size.exactMillis])
  | hopping size advance => (.hopping, [size.exactMillis, advance.exactMillis])
  | session gap => (.session, [gap.exactMillis])

instance : BEq Window where
  beq
    | tumbling size, tumbling otherSize => size == otherSize
    | hopping size advance, hopping otherSize otherAdvance =>
        size == otherSize && advance == otherAdvance
    | session gap, session otherGap => gap == otherGap
    | _, _ => false

instance : Hashable Window where
  hash
    | tumbling size => mixHash 0 (hash size)
    | hopping size advance => mixHash 1 (mixHash (hash size) (hash advance))
    | session gap => mixHash 2 (hash gap)

theorem beq_iff (first second : Window) :
    (first == second) = true ↔ first.lengths = second.lengths := by
  cases first <;> cases second <;> simp [BEq.beq, lengths]

instance : EquivBEq Window where
  rfl := by simp [beq_iff]
  symm := by simp only [beq_iff]; exact Eq.symm
  trans := by simp only [beq_iff]; exact Eq.trans

instance : LawfulHashable Window where
  hash_eq first second alike := by
    rw [beq_iff] at alike
    cases first <;> cases second <;> simp_all [lengths, hash]

end Window

end StreamWindow
