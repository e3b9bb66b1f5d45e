import StreamWindow.Toml.Scalar

/-! Documents that every reader understands. Integers have sixty-four bits with their sign, floats
are in range, and the name that moments use for their text holds the text of a moment. -/

namespace StreamWindow

namespace Data

def isMoment : Data → Bool
  | text written => (Toml.moment? written.toList).isSome
  | _ => false

mutual

def isPortable : Data → Bool
  | oversized _ => false
  | integer number => -9223372036854775808 ≤ number && number ≤ 9223372036854775807
  | sequence items => allPortable items
  | map [] => true
  | map ((name, data) :: entries) =>
      if name = momentField then data.isMoment
      else data.isPortable && entriesPortable entries
  | _ => true

def allPortable : List Data → Bool
  | [] => true
  | item :: items => item.isPortable && allPortable items

def entriesPortable : List (String × Data) → Bool
  | [] => true
  | (_, data) :: entries => data.isPortable && entriesPortable entries

end

end Data

end StreamWindow
