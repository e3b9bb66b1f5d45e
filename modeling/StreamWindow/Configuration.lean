import StreamWindow.Diagnostic

/-! The configuration: what is logged, and how strictly clauses are checked. -/

namespace StreamWindow

inductive LogFormat
  | plain | json
  deriving DecidableEq, Repr

structure LoggingOptions where
  level : String := "warn"
  modules : List (String × String) := []
  file : Option String := none
  format : LogFormat := .plain
  deriving DecidableEq, Repr

namespace LoggingOptions

def setModule (logging : LoggingOptions) (name level : String) : LoggingOptions :=
  { logging with modules := logging.modules.filter (·.1 != name) ++ [(name, level)] }

def setModules (logging : LoggingOptions) (entries : List (String × String)) : LoggingOptions :=
  entries.foldl (fun logging entry => logging.setModule entry.1 entry.2) logging

/-- The modules by name. Code points are in the order of their bytes in UTF-8. -/
def sortedModules (logging : LoggingOptions) : List (String × String) :=
  logging.modules.mergeSort fun first second => first.1 ≤ second.1

def directives (logging : LoggingOptions) : String :=
  logging.level ++
    String.join (logging.sortedModules.map fun (name, level) => s!",{name}={level}")

end LoggingOptions

structure Configuration where
  logging : LoggingOptions := {}
  check : CheckOptions := {}
  deriving DecidableEq

def Configuration.isValid (configuration : Configuration) : Bool :=
  !configuration.check.cap.any Span.isZero

end StreamWindow
