/-! How important an event is, from errors down to traces. -/

namespace StreamWindow

inductive Level
  | error | warn | info | debug | trace
  deriving DecidableEq, Repr

namespace Level

def name : Level → String
  | error => "ERROR"
  | warn => "WARN"
  | info => "INFO"
  | debug => "DEBUG"
  | trace => "TRACE"

def verbosity : Level → Nat
  | error => 1
  | warn => 2
  | info => 3
  | debug => 4
  | trace => 5

end Level

structure LogRecord where
  level : Level
  target : String
  text : String
  deriving DecidableEq, Repr

def LogRecord.line (record : LogRecord) : String :=
  s!"{record.level.name} {record.target}: {record.text}"

structure Logged (outcome : Type) where
  outcome : outcome
  records : List LogRecord := []

end StreamWindow
