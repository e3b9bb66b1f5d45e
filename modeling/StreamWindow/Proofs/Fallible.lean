/-! Chains of steps that can fail. -/

namespace StreamWindow

theorem bind_eq_ok_iff {ε α β : Type} {first : Except ε α} {next : α → Except ε β} {result : β} :
    first >>= next = .ok result ↔ ∃ value, first = .ok value ∧ next value = .ok result := by
  cases first <;> simp [bind, Except.bind]

theorem bind_eq_error_iff {ε α β : Type} {first : Except ε α} {next : α → Except ε β}
    {failure : ε} :
    first >>= next = .error failure ↔
      first = .error failure ∨ ∃ value, first = .ok value ∧ next value = .error failure := by
  cases first <;> simp [bind, Except.bind]

theorem map_eq_error_iff {ε α β : Type} {step : Except ε α} {change : α → β} {failure : ε} :
    change <$> step = .error failure ↔ step = .error failure := by
  cases step <;> simp [Functor.map, Except.map]

theorem exists_ok_iff {ε α : Type} {step : Except ε α} :
    (∃ result, step = .ok result) ↔ (fun _ => ()) <$> step = .ok () := by
  cases step <;> simp [Functor.map, Except.map]

end StreamWindow
