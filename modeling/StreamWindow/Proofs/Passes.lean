import StreamWindow.Diagnostic

/-!
The passes of a check over one list of diagnostics. The second pass never meets anything that the
first one has added, so that the list holds either a violation or warnings.
-/

namespace StreamWindow

def Window.hints : Window → List Issue
  | hopping size advance =>
      match size.millis?, advance.millis? with
      | some sizeMillis, some advanceMillis =>
          if advanceMillis = 0 then []
          else if advanceMillis = sizeMillis then [.likeTumbling size]
          else if sizeMillis % advanceMillis = 0 then []
          else [.unevenAdvance sizeMillis advanceMillis]
      | _, _ => []
  | tumbling _ => []
  | session _ => []

variable {clause : Clause} {cap : Option Span}

theorem dispatch_other {context result : Type} (answer : Clause → context → result)
    (given : context) : clause.dispatch { other := answer } given = answer clause given := by
  unfold Clause.dispatch
  cases clause.window with
  | tumbling size => rfl
  | hopping size advance => rfl
  | session gap => rfl

/-- A pass adds behind what it is given, and does not look at it. -/
theorem dispatch_lintPass (found : List Diagnostic) : clause.dispatch lintPass found =
    found ++ clause.window.hints.map fun issue => ⟨.warning, issue, clause.location⟩ := by
  obtain ⟨window, location⟩ := clause
  cases window with
  | tumbling size => exact (List.append_nil found).symm
  | session gap => exact (List.append_nil found).symm
  | hopping size advance =>
      simp only [Clause.dispatch, lintPass, Window.hints]
      cases size.millis? with
      | none => exact (List.append_nil found).symm
      | some sizeMillis =>
          cases advance.millis? with
          | none => exact (List.append_nil found).symm
          | some advanceMillis =>
              dsimp only
              split
              · exact (List.append_nil found).symm
              split
              · rfl
              split
              · exact (List.append_nil found).symm
              · rfl

theorem findings_of_violation {cause : Violation}
    (refused : (do clause.window.validate; clause.window.respectCap cap) = .error cause) :
    clause.findings cap = [⟨.error, .violation cause, clause.location⟩] := by
  have first : clause.dispatch (validatePass cap) [] =
      [⟨.error, .violation cause, clause.location⟩] := by
    rw [validatePass, dispatch_other, refused]
    rfl
  rw [Clause.findings, first]
  rfl

theorem findings_of_passed
    (passed : (do clause.window.validate; clause.window.respectCap cap) = .ok ()) :
    clause.findings cap =
      clause.window.hints.map fun issue => ⟨.warning, issue, clause.location⟩ := by
  have first : clause.dispatch (validatePass cap) [] = [] := by
    rw [validatePass, dispatch_other, passed]
  rw [Clause.findings, first]
  exact dispatch_lintPass []

end StreamWindow
