import StreamWindow.Explanation
import StreamWindow.Proofs.Passes

/-!
Moving a clause to another place. What is found about it moves along and changes in nothing else.
-/

namespace StreamWindow

def Clause.movedTo (clause : Clause) (location : Option Location) : Clause :=
  { clause with location }

def Diagnostic.movedTo (diagnostic : Diagnostic) (location : Option Location) : Diagnostic :=
  { diagnostic with location }

def Explanation.movedTo (explanation : Explanation) (location : Option Location) : Explanation :=
  { explanation with clause := explanation.clause.movedTo location }

variable (clause : Clause) (location : Option Location)

theorem findings_movedTo (cap : Option Span) :
    (clause.movedTo location).findings cap = (clause.findings cap).map (·.movedTo location) := by
  cases checked : (do clause.window.validate; clause.window.respectCap cap) with
  | ok result =>
      have moved := @findings_of_passed (clause.movedTo location) cap checked
      rw [moved, findings_of_passed checked, List.map_map]
      rfl
  | error cause =>
      have moved := @findings_of_violation (clause.movedTo location) cap cause checked
      rw [moved, findings_of_violation checked]
      rfl

theorem check_movedTo (options : CheckOptions) :
    (clause.movedTo location).check options =
      (clause.check options).map (·.movedTo location) := by
  unfold Clause.check
  rw [findings_movedTo]
  split
  · simp only [List.map_map]
    rfl
  · rfl

theorem countP_movedTo (found : List Diagnostic) :
    (found.map (·.movedTo location)).countP Diagnostic.isError =
      found.countP Diagnostic.isError := by
  rw [List.countP_map]
  rfl

theorem hasErrors_movedTo (found : List Diagnostic) :
    hasErrors (found.map (·.movedTo location)) = hasErrors found := by
  unfold hasErrors
  rw [List.any_map]
  rfl

end StreamWindow
