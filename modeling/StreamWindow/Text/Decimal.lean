/-! The decimal text of a float: the fewest digits that read back as the same float, without an
exponent and always with a point. -/

namespace StreamWindow.Text

structure Decimal where
  digits : Nat
  power : Int

namespace Decimal

def toFloat (decimal : Decimal) : Float :=
  Float.ofScientific decimal.digits (decimal.power < 0) decimal.power.natAbs

def fractionCount : Nat := 4503599627370496

/-- The exact value of a finite float without its sign, as a numerator and a denominator. A
float counts units of two to the power of its exponent field less 1075. -/
def fraction (bits : Nat) : Nat × Nat :=
  let field := bits / fractionCount % 2048
  let significand := bits % fractionCount
  if field = 0 then (significand, Nat.pow 2 1074)
  else ((significand + fractionCount) * Nat.pow 2 (field - 1075), Nat.pow 2 (1075 - field))

def scale (numerator denominator : Nat) : Int :=
  if denominator ≤ numerator then (Nat.toDigits 10 (numerator / denominator)).length
  else
    let zeros := (List.range 400).find? fun count =>
      denominator ≤ numerator * Nat.pow 10 (count + 1)
    0 - Int.ofNat (zeros.getD 0)

/-- The two neighbours of a fraction among the multiples of a power of ten, nearest first; of
two that are equally near, the greater. -/
def neighbours (numerator denominator : Nat) (power : Int) : List Decimal :=
  let scaled := numerator * Nat.pow 10 (-power).toNat
  let unit := denominator * Nat.pow 10 power.toNat
  let below := scaled / unit
  if 2 * scaled < (2 * below + 1) * unit then [⟨below, power⟩, ⟨below + 1, power⟩]
  else [⟨below + 1, power⟩, ⟨below, power⟩]

def dropZero (decimal : Decimal) : Decimal :=
  if decimal.digits % 10 = 0 then ⟨decimal.digits / 10, decimal.power + 1⟩ else decimal

/-- The shortest decimal that reads back as the float with these bits; seventeen digits are
always enough. -/
def shortest (bits : Nat) : Decimal :=
  let (numerator, denominator) := fraction bits
  let places := scale numerator denominator
  let candidates := (List.range 17).flatMap fun (count : Nat) =>
    neighbours numerator denominator (places - (count + 1 : Nat))
  let found := candidates.find? fun decimal => decimal.toFloat.toBits.toNat == bits
  dropZero (found.getD ⟨0, 0⟩)

def text (decimal : Decimal) : String :=
  let digits := Nat.toDigits 10 decimal.digits
  if 0 ≤ decimal.power then
    String.ofList (digits ++ List.replicate decimal.power.toNat '0') ++ ".0"
  else
    let places := decimal.power.natAbs
    let padded := List.replicate (places + 1 - digits.length) '0' ++ digits
    String.ofList (padded.take (padded.length - places)) ++ "." ++
      String.ofList (padded.drop (padded.length - places))

end Decimal

def floatText (value : Float) : String :=
  if value.isNaN then "NaN"
  else
    let signCount := 9223372036854775808
    let sign := if signCount ≤ value.toBits.toNat then "-" else ""
    let bits := value.toBits.toNat % signCount
    if value.isInf then s!"{sign}inf"
    else if bits = 0 then s!"{sign}0.0"
    else s!"{sign}{(Decimal.shortest bits).text}"

end StreamWindow.Text
