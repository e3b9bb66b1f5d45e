import StreamWindow.Data
import StreamWindow.Text.Digits

/-! Values of a TOML document that are written without quotes: booleans, integers, floats, and
dates and times. -/

namespace StreamWindow.Toml

/-- The digits of a number without the underscores that group them; an underscore stands
between two digits. -/
def ungroup? (isDigit : Char → Bool) : List Char → Option (List Char)
  | [] => none
  | [last] => if isDigit last then some [last] else none
  | digit :: '_' :: rest =>
      if isDigit digit then (ungroup? isDigit rest).map (digit :: ·) else none
  | digit :: rest => if isDigit digit then (ungroup? isDigit rest).map (digit :: ·) else none

def plainDigits? (chars : List Char) : Option (List Char) := do
  let digits ← ungroup? Char.isDigit chars
  if digits.head? = some '0' ∧ 1 < digits.length then none else some digits

def splitSign : List Char → Bool × List Char
  | '-' :: rest => (true, rest)
  | '+' :: rest => (false, rest)
  | chars => (false, chars)

def numeral? (base : Nat) (chars : List Char) : Option Int := do
  let digits ← ungroup? (Text.isDigitOf base) chars
  return Text.valueOf base digits

def integer? (chars : List Char) : Option Int :=
  match chars with
  | '0' :: 'x' :: rest => numeral? 16 rest
  | '0' :: 'o' :: rest => numeral? 8 rest
  | '0' :: 'b' :: rest => numeral? 2 rest
  | _ => do
      let (negative, rest) := splitSign chars
      let magnitude := Nat.ofDigitChars 10 (← plainDigits? rest) 0
      return if negative then -(magnitude : Int) else magnitude

def ofInteger (number : Int) : Data :=
  if -170141183460469231731687303715884105728 ≤ number ∧
      number < 340282366920938463463374607431768211456 then .integer number
  else .oversized .integer

def exponent? (bound : Nat) : List Char → Option Int
  | [] => some 0
  | mark :: rest => do
      guard (mark = 'e' ∨ mark = 'E')
      let (negative, digits) := splitSign rest
      let size := min (Nat.ofDigitChars 10 (← ungroup? Char.isDigit digits) 0) bound
      return if negative then -(size : Int) else size

/-- A number with a fraction or an exponent. No float is as large or as small as a power of ten
whose size exceeds the number of digits by a thousand. -/
def magnitude? (chars : List Char) : Option Float := do
  let bound := chars.length + 1000
  let inNumber (char : Char) := char.isDigit || char == '_'
  let whole ← plainDigits? (chars.takeWhile inNumber)
  match chars.dropWhile inNumber with
  | [] => none
  | '.' :: rest =>
      let fraction ← ungroup? Char.isDigit (rest.takeWhile inNumber)
      let power ← exponent? bound (rest.dropWhile inNumber)
      let digits := Nat.ofDigitChars 10 (whole ++ fraction) 0
      return Text.Decimal.toFloat ⟨digits, power - fraction.length⟩
  | rest => return Text.Decimal.toFloat ⟨Nat.ofDigitChars 10 whole 0, ← exponent? bound rest⟩

def float? (chars : List Char) : Option Data := do
  let (negative, rest) := splitSign chars
  let signed (value : Float) : Data := .float (if negative then -value else value)
  if rest = ['i', 'n', 'f'] then return signed (1.0 / 0.0)
  else if rest = ['n', 'a', 'n'] then return signed (0.0 / 0.0)
  else
    let value ← magnitude? rest
    return if value.isInf then .oversized .float else signed value

def fixed? (width : Nat) (source : List Char) : Option (Nat × List Char) := do
  let digits := source.take width
  guard (digits.length = width ∧ digits.all Char.isDigit)
  return (Nat.ofDigitChars 10 digits 0, source.drop width)

def mark? (char : Char) : List Char → Option (List Char)
  | first :: rest => if first = char then some rest else none
  | [] => none

def daysInMonth (year month : Nat) : Nat :=
  if month = 2 then
    if year % 4 = 0 ∧ (year % 100 ≠ 0 ∨ year % 400 = 0) then 29 else 28
  else if month = 4 ∨ month = 6 ∨ month = 9 ∨ month = 11 then 30
  else 31

def date? (source : List Char) : Option (List Char × List Char) := do
  let (year, rest) ← fixed? 4 source
  let (month, rest) ← fixed? 2 (← mark? '-' rest)
  let (day, rest) ← fixed? 2 (← mark? '-' rest)
  guard (1 ≤ month ∧ month ≤ 12 ∧ 1 ≤ day ∧ day ≤ daysInMonth year month)
  return (source.take 10, rest)

def dropZeros (digits : List Char) : List Char :=
  (digits.reverse.dropWhile (· = '0')).reverse

/-- Parts of a second: nine digits count, and zeros at the end do not. -/
def shownFraction (digits : List Char) : List Char :=
  match dropZeros (digits.take 9) with
  | [] => []
  | kept => '.' :: kept

def seconds? : List Char → Option (List Char × List Char)
  | ':' :: source => do
      let (second, rest) ← fixed? 2 source
      guard (second ≤ 60)
      match rest with
      | '.' :: rest =>
          guard (rest.head?.any Char.isDigit)
          let fraction := shownFraction (rest.takeWhile Char.isDigit)
          return (':' :: source.take 2 ++ fraction, rest.dropWhile Char.isDigit)
      | _ => return (':' :: source.take 2, rest)
  | source => some ([':', '0', '0'], source)

def time? (source : List Char) : Option (List Char × List Char) := do
  let (hour, rest) ← fixed? 2 source
  let (minute, rest) ← fixed? 2 (← mark? ':' rest)
  guard (hour ≤ 23 ∧ minute ≤ 59)
  let (seconds, rest) ← seconds? rest
  return (source.take 5 ++ seconds, rest)

def offset? : List Char → Option (List Char)
  | [] => some []
  | sign :: source =>
      if sign = 'Z' ∨ sign = 'z' then
        if source.isEmpty then some ['Z'] else none
      else do
        guard (sign = '+' ∨ sign = '-')
        let (hour, rest) ← fixed? 2 source
        let (minute, rest) ← fixed? 2 (← mark? ':' rest)
        guard (hour ≤ 23 ∧ minute ≤ 59 ∧ rest.isEmpty)
        return (if hour = 0 ∧ minute = 0 then '+' else sign) :: source

def moment? (chars : List Char) : Option (List Char) :=
  match date? chars, time? chars with
  | some (date, []), _ => some date
  | some (date, separator :: rest), _ => do
      guard (separator.toUpper = 'T' ∨ separator = ' ')
      let (time, rest) ← time? rest
      return date ++ 'T' :: time ++ (← offset? rest)
  | none, some (time, []) => some time
  | none, _ => none

def scalar? (chars : List Char) : Option Data :=
  if chars = ['t', 'r', 'u', 'e'] then some (.boolean true)
  else if chars = ['f', 'a', 'l', 's', 'e'] then some (.boolean false)
  else
    ((moment? chars).map fun written => Data.moment (String.ofList written)).or
      (((integer? chars).map ofInteger).or (float? chars))

def isScalarChar (char : Char) : Bool :=
  char.isAlphanum || char == '+' || char == '-' || char == '_' || char == '.' || char == ':'

def isDate (chars : List Char) : Bool :=
  (date? chars).any fun (_, rest) => rest.isEmpty

def scalarChars (source : List Char) : List Char × List Char :=
  let chars := source.takeWhile isScalarChar
  let rest := source.dropWhile isScalarChar
  match rest with
  | ' ' :: digit :: _ =>
      if isDate chars && digit.isDigit then
        (chars ++ ' ' :: rest.tail.takeWhile isScalarChar, rest.tail.dropWhile isScalarChar)
      else (chars, rest)
  | _ => (chars, rest)

def readScalar? (source : List Char) : Option (Data × List Char) :=
  let (chars, rest) := scalarChars source
  (scalar? chars).map (·, rest)

end StreamWindow.Toml
