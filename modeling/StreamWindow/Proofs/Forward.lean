import StreamWindow.Clause
import StreamWindow.Clause.Failure
import StreamWindow.Clause.Lexical

/-!
Reading a clause without ever going back: an item either returns what follows it in the source, or
fails, and then the source stays as it was.
-/

namespace StreamWindow

mutual

def skipLayout : List Char → List Char
  | '-' :: '-' :: rest => skipComment rest
  | char :: rest => if isSpace char then skipLayout rest else char :: rest
  | [] => []

def skipComment : List Char → List Char
  | '\n' :: rest => skipLayout rest
  | _ :: rest => skipComment rest
  | [] => []

end

def keyword? (word : String) (source : List Char) : Option (List Char) :=
  match dropCaseless? word.toList source with
  | some rest => if rest.head?.any isWordChar then none else some rest
  | none => none

def symbol? (char : Char) : List Char → Option (List Char)
  | first :: rest => if first = char then some rest else none
  | [] => none

def letters? (source : List Char) : Option (List Char × List Char) :=
  match source.takeWhile Char.isAlpha with
  | [] => none
  | letters => some (letters, source.dropWhile Char.isAlpha)

def integer? (source : List Char) : Option (UInt64 × List Char) :=
  let digits := source.takeWhile Char.isDigit
  let rest := source.dropWhile Char.isDigit
  if digits.isEmpty || rest.head? == some '.' then none
  else (Word.fit? (Nat.ofDigitChars 10 digits 0)).map (·, rest)

def unit? (source : List Char) : Option (TimeUnit × List Char) :=
  match letters? source with
  | some (word, rest) => (TimeUnit.ofWord? word).map (·, rest)
  | none => none

def item {α : Type} (expected : Expected) (read : List Char → Option α) (source : List Char) :
    Except Failure α :=
  match read (skipLayout source) with
  | some found => .ok found
  | none => .error ⟨expected, skipLayout source⟩

def readDuration (source : List Char) : Except Failure (Duration × List Char) := do
  let (magnitude, rest) ← item .magnitude integer? source
  let (unit, rest) ← item .unit unit? rest
  return (⟨magnitude, unit⟩, rest)

def readSize (source : List Char) : Except Failure (Duration × List Char) := do
  let rest ← item .sizeKeyword (keyword? "SIZE") source
  readDuration rest

def readAdvance (source : List Char) : Except Failure (Duration × List Char) := do
  let rest ← item .advanceBy (keyword? "ADVANCE") source
  let rest ← item .advanceBy (keyword? "BY") rest
  readDuration rest

def readBody (kind : Window.Kind) (source : List Char) : Except Failure (Window × List Char) :=
  match kind with
  | .tumbling => do
      let (size, rest) ← readSize source
      return (.tumbling size, rest)
  | .hopping => do
      let (size, rest) ← readSize source
      let rest ← item .comma (symbol? ',') rest
      let (advance, rest) ← readAdvance rest
      return (.hopping size advance, rest)
  | .session => do
      let (gap, rest) ← readDuration source
      return (.session gap, rest)

def kind? (source : List Char) : Option (Window.Kind × List Char) :=
  [Window.Kind.tumbling, .hopping, .session].findSome? fun kind =>
    (keyword? kind.keyword source).map (kind, ·)

/-- The source from the kind on: leading layout and one `WINDOW` keyword are dropped. -/
def kindStart (source : List Char) : List Char :=
  let start := skipLayout source
  match keyword? "WINDOW" start with
  | some rest => skipLayout rest
  | none => start

def readWindow (source : List Char) : Except Failure Window := do
  let (kind, rest) ← item .windowKind kind? (kindStart source)
  let rest ← item .openParen (symbol? '(') rest
  let (window, rest) ← readBody kind rest
  let rest ← item .closeParen (symbol? ')') rest
  match skipLayout rest with
  | [] => return window
  | rest => throw ⟨.endOfClause, rest⟩

end StreamWindow
