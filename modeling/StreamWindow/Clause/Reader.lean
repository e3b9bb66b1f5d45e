import StreamWindow.Clause
import StreamWindow.Clause.Lexical

/-! Reading window clauses. Layout may stand before every item of a clause and after the last
one. Only the kind leaves a choice; behind it everything is required. -/

namespace StreamWindow

namespace Scanner

/-- An item that must stand here, after layout. -/
def required {α : Type} (expected : Expected) (scanner : Scanner α) : Scanner α := do
  layout
  expecting expected (commit scanner)

def timeUnit : Scanner TimeUnit := do
  let saved ← get
  let word ← letters
  match TimeUnit.read (String.ofList word) with
  | .ok unit => return unit
  | .error _ => backtrack saved

def duration : Scanner Duration := do
  let magnitude ← required .magnitude integer
  let unit ← required .unit timeUnit
  return ⟨magnitude, unit⟩

def openParen : Scanner Unit :=
  required .openParen (takeText ['('])

def closeParen : Scanner Unit :=
  required .closeParen (takeText [')'])

def sizeKeyword : Scanner Unit :=
  required .sizeKeyword (keyword "SIZE")

def tumbling : Scanner Window := do
  keyword "TUMBLING"
  openParen
  sizeKeyword
  let size ← commit duration
  closeParen
  return .tumbling size

def hopping : Scanner Window := do
  keyword "HOPPING"
  openParen
  sizeKeyword
  let size ← commit duration
  required .comma (takeText [','])
  required .advanceBy do
    keyword "ADVANCE"
    layout
    keyword "BY"
  let advance ← commit duration
  closeParen
  return .hopping size advance

def session : Scanner Window := do
  keyword "SESSION"
  openParen
  let gap ← commit duration
  closeParen
  return .session gap

def window : Scanner Window :=
  either tumbling <| either hopping <| either session <|
    expecting .windowKind <| commit <| throw {}

def leading : Scanner Unit := do
  layout
  if (← attempt (keyword "WINDOW")).isSome then layout

/-- Scans a clause. The length of the source from the kind on is kept with it. -/
def clause : Scanner (Nat × Window) := do
  leading
  let remaining := Text.byteLength (← get)
  let window ← window
  layout
  return (remaining, window)

def wholeClause : Scanner (Nat × Window) := do
  let found ← clause
  ending
  return found

end Scanner

def Clause.read (text : String) : Except Failure Clause :=
  let source := text.toList
  match Scanner.wholeClause.run source with
  | .ok (remaining, window) _ =>
      .ok ⟨window, Location.ofOffset? source (Text.byteLength source - remaining)⟩
  | .error stop rest => .error ⟨stop.due.getLast?.getD .endOfClause, rest⟩

end StreamWindow
