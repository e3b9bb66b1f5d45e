import StreamWindow.Aggregation
import StreamWindow.Diagnostic

/-! Planning an aggregation: a clause is checked, and only a clause without errors is lowered. -/

namespace StreamWindow

inductive GeneralReason
  | validation | timeout | logic | featureConfiguration
  deriving DecidableEq, Repr

inductive Reason
  | windowConfiguration | lowering | unsupportedStore
  | general (reason : GeneralReason)
  deriving DecidableEq, Repr

namespace Reason

def code : Reason → Nat
  | windowConfiguration => 1001
  | lowering => 1002
  | unsupportedStore => 1003
  | general .validation => 100
  | general .timeout => 204
  | general .logic => 104
  | general .featureConfiguration => 300

def message : Reason → String
  | windowConfiguration => "window configuration error"
  | lowering => "window lowering error"
  | unsupportedStore => "unsupported materialization"
  | general .validation => "validation error"
  | general .timeout => "timeout error"
  | general .logic => "BUG :logic error"
  | general .featureConfiguration => "configuration error << feature config error"

end Reason

structure PlanError where
  reason : Reason
  detail : String
  deriving DecidableEq, Repr

namespace PlanError

def ofDiagnostics (errors : List Diagnostic) : PlanError :=
  ⟨.windowConfiguration, "\n".intercalate (errors.map Diagnostic.text)⟩

def ofLowering (error : LoweringError) : PlanError :=
  match error with
  | .unsupportedStore _ _ => ⟨.unsupportedStore, error.message⟩
  | .invariant _ => ⟨.lowering, error.message⟩

end PlanError

def Diagnostic.warningRecord (diagnostic : Diagnostic) : LogRecord :=
  ⟨.warn, "sw_core::planner", diagnostic.text⟩

/-- Checks a clause and lowers it. Errors end the plan; warnings are logged and do not. -/
def Clause.plan {value aggregate : Type} (clause : Clause) (options : CheckOptions)
    (stream : GroupedStream) (initial : aggregate)
    (fold : String → value → aggregate → aggregate) (store : Store) :
    Logged (Except PlanError (Aggregation value aggregate)) :=
  let (errors, warnings) := (clause.check options).partition Diagnostic.isError
  if errors.isEmpty then
    let lowered := Aggregation.lower clause.window stream initial fold store
    { outcome := lowered.outcome.mapError PlanError.ofLowering
      records := warnings.map Diagnostic.warningRecord ++ lowered.records }
  else { outcome := .error (PlanError.ofDiagnostics errors) }

end StreamWindow
