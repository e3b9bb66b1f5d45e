import StreamWindow.Location
import StreamWindow.Window

/-! A window clause: a window and the place where its kind was read. The place serves
diagnostics only; clauses are alike when their windows are. -/

namespace StreamWindow

structure Clause where
  window : Window
  location : Option Location := none
  deriving DecidableEq, Repr

namespace Clause

def text (clause : Clause) : String :=
  clause.window.text

instance : BEq Clause where
  beq first second := first.window == second.window

instance : Hashable Clause where
  hash clause := hash clause.window

theorem beq_iff (first second : Clause) :
    (first == second) = true ↔ first.window.lengths = second.window.lengths :=
  Window.beq_iff ..

instance : EquivBEq Clause where
  rfl := by simp [beq_iff]
  symm := by simp only [beq_iff]; exact Eq.symm
  trans := by simp only [beq_iff]; exact Eq.trans

instance : LawfulHashable Clause where
  hash_eq _ _ alike := LawfulHashable.hash_eq (α := Window) _ _ alike

end Clause

end StreamWindow
