/-! Measuring text: bytes in UTF-8, and lines. -/

namespace StreamWindow.Text

def byteLength : List Char → Nat
  | [] => 0
  | char :: rest => char.utf8Size + byteLength rest

/-- The first `count` bytes of the text, or all of it when it is shorter. There is no such
prefix when the count ends inside a character. -/
def bytePrefix? : Nat → List Char → Option (List Char)
  | 0, _ => some []
  | _ + 1, [] => some []
  | count + 1, char :: rest =>
      if char.utf8Size ≤ count + 1 then
        (bytePrefix? (count + 1 - char.utf8Size) rest).map (char :: ·)
      else none

def byteSlice? (start stop : Nat) (text : List Char) : Option (List Char) := do
  let before ← bytePrefix? start text
  let upTo ← bytePrefix? stop text
  return upTo.drop before.length

def byteSuffix? (start : Nat) (text : List Char) : Option (List Char) :=
  (bytePrefix? start text).map fun before => text.drop before.length

def byteFind? (belongs : Char → Bool) : List Char → Option Nat
  | [] => none
  | char :: rest =>
      if belongs char then some 0 else (byteFind? belongs rest).map (char.utf8Size + ·)

def lastLine (text : List Char) : List Char :=
  (text.reverse.takeWhile (· != '\n')).reverse

end StreamWindow.Text
