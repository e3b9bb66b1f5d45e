/-! Digits in bases up to thirty-six, in either case, and characters that are written by their
code. -/

namespace StreamWindow.Text

def digitValue (digit : Char) : Nat :=
  if digit.isDigit then digit.toNat - '0'.toNat else digit.toLower.toNat - 'a'.toNat + 10

def isDigitOf (base : Nat) (char : Char) : Bool :=
  char.isAlphanum && digitValue char < base

def valueOf (base : Nat) (digits : List Char) : Nat :=
  digits.foldl (fun value digit => value * base + digitValue digit) 0

def value? (base : Nat) (digits : List Char) : Option Nat :=
  if digits.all (isDigitOf base) then some (valueOf base digits) else none

def coded? (digits : List Char) : Option Char := do
  let code ← value? 16 digits
  guard code.isValidChar
  return Char.ofNat code

end StreamWindow.Text
