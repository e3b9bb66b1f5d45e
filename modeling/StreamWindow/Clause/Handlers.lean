import StreamWindow.Clause

/-! Case analysis on clauses with a fallback: a set of handlers answers for each kind of window,
and a kind without a handler of its own goes to `other`. -/

namespace StreamWindow

structure Handlers (context result : Type) where
  other : Clause → context → result
  tumbling : Clause → Duration → context → result := fun clause _ => other clause
  hopping : Clause → Duration → Duration → context → result := fun clause _ _ => other clause
  session : Clause → Duration → context → result := fun clause _ => other clause

def Clause.dispatch {context result : Type} (clause : Clause)
    (handlers : Handlers context result) (given : context) : result :=
  match clause.window with
  | .tumbling size => handlers.tumbling clause size given
  | .hopping size advance => handlers.hopping clause size advance given
  | .session gap => handlers.session clause gap given

end StreamWindow
