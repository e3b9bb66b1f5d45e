import StreamWindow.Text.CodePoints

/-! Quoted text: what stands between the quotes shows every character that a reader could not
see or would misread as an escape. -/

namespace StreamWindow.Text

def isEscaped (char : Char) : Bool :=
  let point := char.toNat
  point < 0x20 || (0x7F ≤ point &&
    (inRanges hiddenRanges point || inRanges combiningRanges point ||
      inRanges unassignedRanges point))

def escape (char : Char) : List Char :=
  if char = '"' then ['\\', '"']
  else if char = '\\' then ['\\', '\\']
  else if char = '\n' then ['\\', 'n']
  else if char = '\r' then ['\\', 'r']
  else if char = '\t' then ['\\', 't']
  else if char = '\x00' then ['\\', '0']
  else if isEscaped char then
    ['\\', 'u', '\x7b'] ++ Nat.toDigits 16 char.toNat ++ ['\x7d']
  else [char]

def quoted (text : String) : String :=
  String.ofList ('"' :: text.toList.flatMap escape ++ ['"'])

end StreamWindow.Text
