import StreamWindow.Clause.Reader
import StreamWindow.CommandLine.Arguments
import StreamWindow.Descriptor
import StreamWindow.Diagnostic
import StreamWindow.Explanation
import StreamWindow.Log.Event

/-! What each command does with the text of a clause. -/

namespace StreamWindow.CommandLine

/-- The effects of a command: its events, which come first, and its output. -/
structure Report where
  success : Bool := true
  events : List Event := []
  output : String := ""
  errors : List String := []
  deriving DecidableEq, Repr

def failed (message : String) : Report where
  success := false
  errors := [s!"Error: {message}"]

def readClause (text : String) : Except String Clause :=
  (Clause.read text).mapError (·.message text)

def format (text : String) : Except String String :=
  Clause.text <$> readClause text

def summary (diagnostics : List Diagnostic) : String :=
  if diagnostics.isEmpty then "No issues found."
  else
    let errors := diagnostics.countP Diagnostic.isError
    s!"{errors} error(s), {diagnostics.length - errors} warning(s)"

def checkedEvent (clause : Clause) (diagnostics : List Diagnostic) : Event where
  level := .info
  target := "swin::cmd_check"
  domain := "pipe"
  message := "window clause checked"
  fields := [("kind", .text clause.window.kind.keyword),
    ("diagnostics", .count diagnostics.length)]

def loweredEvent (descriptor : Descriptor) : Event where
  level := .debug
  target := "swin::cmd_explain"
  domain := "pipe"
  message := "window clause lowered"
  fields := [("descriptor", .text descriptor.text)]

structure Explained where
  explanation : Explanation
  descriptor : Descriptor
  hints : List Diagnostic
  deriving DecidableEq, Repr

def Explained.text (explained : Explained) : String :=
  explained.explanation.text ++ s!"  Lowered: {explained.descriptor.text}\n" ++
    String.join (explained.hints.map fun hint => s!"  Note: {hint.text}\n")

def invariantMessage (cause : Violation) : String :=
  s!"window invariant violated during lowering: {cause.message}"

def explain (text : String) (options : CheckOptions) : Except String Explained := do
  let clause ← readClause text
  let diagnostics := clause.check options
  if hasErrors diagnostics then
    throw ("check errors:\n" ++ "\n".intercalate (diagnostics.map Diagnostic.text))
  let explanation ← clause.explain.mapError Violation.message
  let descriptor ← clause.window.lower.mapError invariantMessage
  return ⟨explanation, descriptor, diagnostics⟩

def formatReport (text : String) : Report :=
  match format text with
  | .error message => failed message
  | .ok canonical => { output := s!"{canonical}\n" }

def checkReport (text : String) (options : CheckOptions) : Report :=
  match readClause text with
  | .error message => failed message
  | .ok clause =>
      let diagnostics := clause.check options
      { success := !hasErrors diagnostics
        events := [checkedEvent clause diagnostics]
        errors := diagnostics.map Diagnostic.text ++ [summary diagnostics] }

def explainReport (text : String) (options : CheckOptions) : Report :=
  match explain text options with
  | .error message => failed message
  | .ok explained =>
      { events := [loweredEvent explained.descriptor], output := explained.text }

def Command.report (command : Command) (text : String) (options : CheckOptions) : Report :=
  match command with
  | .format => formatReport text
  | .check => checkReport text options
  | .explain => explainReport text options

end StreamWindow.CommandLine
