import StreamWindow.Clause.Failure

/-! Scanners move on in a source as they recognise things, and can be combined. One that finds
only later on that it has to stop must go back by itself. -/

namespace StreamWindow

/-- A scanner stops either so that something else can be tried, or for good. What was due is told
from the inside out. -/
structure Stop where
  final : Bool := false
  due : List Expected := []
  deriving DecidableEq, Repr

abbrev Scanner := EStateM Stop (List Char)

def dropCaseless? : List Char → List Char → Option (List Char)
  | [], source => some source
  | _ :: _, [] => none
  | letter :: word, char :: source =>
      if letter.toUpper = char.toUpper then dropCaseless? word source else none

namespace Scanner

variable {α : Type}

def takeAll (belongs : Char → Bool) : Scanner (List Char) := do
  let source ← get
  set (source.dropWhile belongs)
  return source.takeWhile belongs

def takeSome (belongs : Char → Bool) : Scanner (List Char) := do
  let source ← get
  if source.head?.any belongs then takeAll belongs else throw {}

def takeText (text : List Char) : Scanner Unit := do
  let source ← get
  if text.isPrefixOf source then set (source.drop text.length) else throw {}

def takeCaseless (word : String) : Scanner Unit := do
  match dropCaseless? word.toList (← get) with
  | some rest => set rest
  | none => throw {}

def ending : Scanner Unit := do
  if !(← get).isEmpty then throw {}

def backtrack (saved : List Char) : Scanner α := do
  set saved
  throw {}

def attempt (scanner : Scanner α) : Scanner (Option α) := fun source =>
  match scanner.run source with
  | .ok value rest => .ok (some value) rest
  | .error stop rest => if stop.final then .error stop rest else .ok none source

def either (first second : Scanner α) : Scanner α := fun source =>
  match first.run source with
  | .ok value rest => .ok value rest
  | .error stop rest => if stop.final then .error stop rest else second.run source

def adapt (change : Stop → Stop) (scanner : Scanner α) : Scanner α := fun source =>
  match scanner.run source with
  | .ok value rest => .ok value rest
  | .error stop rest => .error (change stop) rest

def commit (scanner : Scanner α) : Scanner α :=
  scanner.adapt fun stop => { stop with final := true }

def expecting (expected : Expected) (scanner : Scanner α) : Scanner α :=
  scanner.adapt fun stop => { stop with due := stop.due ++ [expected] }

theorem takeAll_run (belongs : Char → Bool) (source : List Char) :
    (takeAll belongs).run source =
      .ok (source.takeWhile belongs) (source.dropWhile belongs) := rfl

theorem takeSome_run (belongs : Char → Bool) (source : List Char) :
    (takeSome belongs).run source =
      if source.head?.any belongs then
        .ok (source.takeWhile belongs) (source.dropWhile belongs)
      else .error {} source := by
  simp only [takeSome, EStateM.run_bind, EStateM.run_get]
  split
  · rfl
  · rfl

theorem takeText_run (text source : List Char) : (takeText text).run source =
    if text.isPrefixOf source then .ok () (source.drop text.length) else .error {} source := by
  simp only [takeText, EStateM.run_bind, EStateM.run_get]
  split
  · rfl
  · rfl

theorem takeCaseless_run (word : String) (source : List Char) :
    (takeCaseless word).run source =
      match dropCaseless? word.toList source with
      | some rest => .ok () rest
      | none => .error {} source := by
  simp only [takeCaseless, EStateM.run_bind, EStateM.run_get]
  split
  · rfl
  · rfl

theorem ending_run (source : List Char) :
    ending.run source = if source.isEmpty then .ok () source else .error {} source := by
  simp only [ending, EStateM.run_bind, EStateM.run_get]
  cases source with
  | nil => rfl
  | cons char source => rfl

theorem attempt_run (scanner : Scanner α) (source : List Char) :
    (attempt scanner).run source =
      match scanner.run source with
      | .ok value rest => .ok (some value) rest
      | .error stop rest => if stop.final then .error stop rest else .ok none source := rfl

theorem either_run (first second : Scanner α) (source : List Char) :
    (either first second).run source =
      match first.run source with
      | .ok value rest => .ok value rest
      | .error stop rest => if stop.final then .error stop rest else second.run source := rfl

theorem adapt_run (change : Stop → Stop) (scanner : Scanner α) (source : List Char) :
    (adapt change scanner).run source =
      match scanner.run source with
      | .ok value rest => .ok value rest
      | .error stop rest => .error (change stop) rest := rfl

end Scanner

end StreamWindow
