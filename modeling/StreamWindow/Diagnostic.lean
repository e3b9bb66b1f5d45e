import StreamWindow.Clause.Handlers
import StreamWindow.Span

/-! Checking a clause: its invariants and the size cap first, and only a clause that keeps them
is looked at for hints. -/

namespace StreamWindow

inductive Severity
  | error | warning
  deriving DecidableEq, Repr

def Severity.name : Severity → String
  | error => "error"
  | warning => "warning"

inductive Issue
  | violation (cause : Violation)
  | likeTumbling (size : Duration)
  | unevenAdvance (sizeMillis advanceMillis : UInt64)
  deriving DecidableEq, Repr

def Issue.message : Issue → String
  | violation cause => cause.message
  | likeTumbling size =>
      s!"advance equals window size; equivalent to `{(Window.tumbling size).text}`"
  | unevenAdvance sizeMillis advanceMillis =>
      s!"window size {sizeMillis}ms is not a multiple of advance {advanceMillis}ms; " ++
        s!"records fall into {sizeMillis / advanceMillis} or " ++
        s!"{Word.stepsToCover sizeMillis advanceMillis} windows depending on their timestamp"

structure Diagnostic where
  severity : Severity
  issue : Issue
  location : Option Location
  deriving DecidableEq, Repr

def Diagnostic.message (diagnostic : Diagnostic) : String :=
  diagnostic.issue.message

def Diagnostic.text (diagnostic : Diagnostic) : String :=
  match diagnostic.location with
  | some location => s!"{diagnostic.severity.name} at {location.text}: {diagnostic.message}"
  | none => s!"{diagnostic.severity.name}: {diagnostic.message}"

def Diagnostic.isError (diagnostic : Diagnostic) : Bool :=
  diagnostic.severity = .error

structure CheckOptions where
  cap : Option Span := none
  denyWarnings : Bool := false
  deriving DecidableEq

/-- The cap counts in whole milliseconds, at most the largest word. -/
def Window.respectCap (window : Window) : Option Span → Except Violation Unit
  | none => .ok ()
  | some cap => do
      let (measure, duration) := window.extent
      let capMillis := Word.clamp cap.millis
      let millis ← duration.millis
      if capMillis < millis then .error (.exceedsCap measure millis capMillis) else .ok ()

def hasErrors (diagnostics : List Diagnostic) : Bool :=
  diagnostics.any Diagnostic.isError

/-- A pass over a clause adds what it finds to what has been found before. -/
abbrev Pass := Handlers (List Diagnostic) (List Diagnostic)

def validatePass (cap : Option Span) : Pass where
  other clause found :=
    match (do clause.window.validate; clause.window.respectCap cap) with
    | .error cause => found ++ [⟨.error, .violation cause, clause.location⟩]
    | .ok () => found

def lintPass : Pass where
  other _ found := found
  hopping clause size advance found :=
    let warned (issue : Issue) := found ++ [⟨.warning, issue, clause.location⟩]
    match size.millis?, advance.millis? with
    | some sizeMillis, some advanceMillis =>
        if advanceMillis = 0 then found
        else if advanceMillis = sizeMillis then warned (.likeTumbling size)
        else if sizeMillis % advanceMillis = 0 then found
        else warned (.unevenAdvance sizeMillis advanceMillis)
    | _, _ => found

def Clause.findings (clause : Clause) (cap : Option Span) : List Diagnostic :=
  let found := clause.dispatch (validatePass cap) []
  if hasErrors found then found else clause.dispatch lintPass found

def Clause.check (clause : Clause) (options : CheckOptions) : List Diagnostic :=
  let findings := clause.findings options.cap
  if options.denyWarnings then findings.map fun found => { found with severity := .error }
  else findings

end StreamWindow
