import StreamWindow.Word
import StreamWindow.Text.Blank
import StreamWindow.Text.Quoted

/-! Durations as a window clause writes them: a magnitude and a unit. Two durations are alike
when they are equally long, so comparing and hashing go through the exact length. -/

namespace StreamWindow

inductive TimeUnit
  | milliseconds | seconds | minutes | hours | days
  deriving DecidableEq, Repr

namespace TimeUnit

def millis : TimeUnit → Nat
  | milliseconds => 1
  | seconds => 1000
  | minutes => 60000
  | hours => 3600000
  | days => 86400000

def keyword : TimeUnit → String
  | milliseconds => "MILLISECONDS"
  | seconds => "SECONDS"
  | minutes => "MINUTES"
  | hours => "HOURS"
  | days => "DAYS"

/-- The unit that a word names, in the singular or the plural and in any ASCII case. -/
def ofWord? (word : List Char) : Option TimeUnit :=
  match String.ofList (word.map Char.toUpper) with
  | "MILLISECOND" | "MILLISECONDS" => some milliseconds
  | "SECOND" | "SECONDS" => some seconds
  | "MINUTE" | "MINUTES" => some minutes
  | "HOUR" | "HOURS" => some hours
  | "DAY" | "DAYS" => some days
  | _ => none

structure Unknown where
  text : String

def Unknown.message (unknown : Unknown) : String :=
  s!"unknown time unit {Text.quoted unknown.text} " ++
    "(expected MILLISECONDS/SECONDS/MINUTES/HOURS/DAYS)"

def read (text : String) : Except Unknown TimeUnit :=
  match ofWord? (Text.trim text.toList) with
  | some unit => .ok unit
  | none => .error ⟨text⟩

theorem millis_pos (unit : TimeUnit) : 0 < unit.millis := by
  cases unit <;> decide

end TimeUnit

structure Duration where
  magnitude : UInt64
  unit : TimeUnit
  deriving DecidableEq, Repr

namespace Duration

def exactMillis (duration : Duration) : Nat :=
  duration.magnitude.toNat * duration.unit.millis

def millis? (duration : Duration) : Option UInt64 :=
  Word.fit? duration.exactMillis

def isZero (duration : Duration) : Bool :=
  duration.magnitude == 0

def text (duration : Duration) : String :=
  s!"{duration.magnitude} {duration.unit.keyword}"

instance : BEq Duration where
  beq first second := first.exactMillis == second.exactMillis

instance : Hashable Duration where
  hash duration := hash duration.exactMillis

instance : Ord Duration where
  compare first second := compare first.exactMillis second.exactMillis

theorem beq_iff (first second : Duration) :
    (first == second) = true ↔ first.exactMillis = second.exactMillis :=
  Nat.beq_eq_true_eq .. ▸ Iff.rfl

instance : EquivBEq Duration where
  rfl := by simp [beq_iff]
  symm := by simp only [beq_iff]; exact Eq.symm
  trans := by simp only [beq_iff]; exact Eq.trans

instance : LawfulHashable Duration where
  hash_eq first second alike := by
    simp only [hash, (beq_iff first second).mp alike]

theorem isZero_iff (duration : Duration) :
    duration.isZero = true ↔ duration.exactMillis = 0 := by
  have positive := duration.unit.millis_pos
  simp only [isZero, exactMillis, beq_iff_eq, Nat.mul_eq_zero, ← UInt64.toNat_inj,
    UInt64.toNat_zero]
  omega

theorem millis?_eq_some_iff (duration : Duration) (millis : UInt64) :
    duration.millis? = some millis ↔ duration.exactMillis = millis.toNat :=
  Word.fit?_eq_some_iff ..

end Duration

end StreamWindow
