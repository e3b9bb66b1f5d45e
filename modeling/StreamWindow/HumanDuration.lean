import StreamWindow.Span
import StreamWindow.Text.Blank
import StreamWindow.Text.Measure
import StreamWindow.Text.Quoted
import StreamWindow.Word

/-! Durations as people write them in a configuration: a number directly followed by `ms`, `s`,
`m`, `h` or `d`. The written form of a span takes the longest unit that measures it evenly. -/

namespace StreamWindow

namespace HumanDuration

inductive Failure
  | empty
  | missingSuffix (text : String)
  | missingNumber (text : String)
  | numberTooLarge (text : String)
  | unknownSuffix (suffix text : String)
  | outOfRange (text : String)
  | splitCharacter
  deriving DecidableEq, Repr

def Failure.message : Failure → String
  | empty => "empty duration string"
  | missingSuffix text => s!"missing suffix in {Text.quoted text}"
  | missingNumber text => s!"missing numeric part in {Text.quoted text}"
  | numberTooLarge text => s!"invalid number in duration: {Text.quoted text}"
  | unknownSuffix suffix text =>
      s!"unsupported duration suffix {Text.quoted suffix} in {Text.quoted text} " ++
        "(expected ms/s/m/h/d)"
  | outOfRange text => s!"duration {Text.quoted text} is out of range"
  | splitCharacter => "the number ends inside a character"

/-- The digits that a text begins with, and what follows them. The text is cut at the byte offset
of the first character that is not a digit. -/
def splitNumber (chars : List Char) : Except Failure (List Char × List Char) :=
  match Text.byteFind? (fun char => !char.isDigit) chars with
  | none => .error (.missingSuffix (String.ofList chars))
  | some 0 => .error (.missingNumber (String.ofList chars))
  | some offset =>
      match Text.bytePrefix? offset chars, Text.byteSuffix? offset chars with
      | some digits, some suffix => .ok (digits, suffix)
      | _, _ => .error .splitCharacter

def factor? (suffix : List Char) : Option UInt64 :=
  match String.ofList suffix with
  | "ms" => some 1
  | "s" => some 1000
  | "m" => some 60000
  | "h" => some 3600000
  | "d" => some 86400000
  | _ => none

def read (text : String) : Except Failure Span := do
  let chars := Text.trim text.toList
  let trimmed := String.ofList chars
  if chars.isEmpty then .error .empty
  else
    let (digits, suffix) ← splitNumber chars
    match Word.fit? (Nat.ofDigitChars 10 digits 0) with
    | none => .error (.numberTooLarge trimmed)
    | some magnitude =>
        match factor? suffix with
        | none => .error (.unknownSuffix (String.ofList suffix) trimmed)
        | some factor =>
            match Word.product? magnitude factor with
            | none => .error (.outOfRange trimmed)
            | some millis => .ok (Span.ofMillis millis)

def text (span : Span) : String :=
  let millis := span.millis
  if millis = 0 then "0s"
  else if millis % 86400000 = 0 then s!"{millis / 86400000}d"
  else if millis % 3600000 = 0 then s!"{millis / 3600000}h"
  else if millis % 60000 = 0 then s!"{millis / 60000}m"
  else if millis % 1000 = 0 then s!"{millis / 1000}s"
  else s!"{millis}ms"

end HumanDuration

end StreamWindow
