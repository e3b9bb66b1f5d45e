/-! Sixty-four bit words: the checked and the saturating way from a natural number to a word. -/

namespace StreamWindow.Word

def largest : Nat := 18446744073709551615

def fit? (value : Nat) : Option UInt64 :=
  if bound : value < UInt64.size then some (UInt64.ofNatLT value bound) else none

def clamp (value : Nat) : UInt64 :=
  if bound : value < UInt64.size then UInt64.ofNatLT value bound
  else UInt64.ofNatLT largest (by decide)

def sum? (first second : UInt64) : Option UInt64 :=
  if first.toNat + second.toNat < UInt64.size then some (first + second) else none

def product? (first second : UInt64) : Option UInt64 :=
  if first.toNat * second.toNat < UInt64.size then some (first * second) else none

def stepsToCover (length step : UInt64) : UInt64 :=
  length / step + if length % step = 0 then 0 else 1

theorem size_eq : UInt64.size = largest + 1 := rfl

theorem toNat_le_largest (word : UInt64) : word.toNat ≤ largest := by
  have bound := word.toNat_lt_size
  have size := size_eq
  omega

theorem ne_zero_of_one_le {word : UInt64} (positive : 1 ≤ word) : word ≠ 0 := by
  rintro rfl
  contradiction

theorem fit?_eq_some_iff (value : Nat) (word : UInt64) :
    fit? value = some word ↔ value = word.toNat := by
  unfold fit?
  split
  · rw [Option.some.injEq, ← UInt64.toNat_inj, UInt64.toNat_ofNatLT]
  · next outside =>
      have bound := word.toNat_lt_size
      constructor
      · intro found
        contradiction
      · intro same
        omega

theorem fit?_eq_none_iff (value : Nat) : fit? value = none ↔ largest < value := by
  have size := size_eq
  unfold fit?
  split
  · constructor
    · intro missing
      contradiction
    · intro large
      omega
  · constructor
    · intro _
      omega
    · intro _
      rfl

theorem fit?_toNat_of_lt {word : UInt64} {value : Nat} (same : word.toNat = value % UInt64.size) :
    (if value < UInt64.size then some word else none) = fit? value := by
  unfold fit?
  split
  · next bound =>
      rw [Option.some.injEq, ← UInt64.toNat_inj, UInt64.toNat_ofNatLT, same,
        Nat.mod_eq_of_lt bound]
  · rfl

theorem sum?_eq_fit? (first second : UInt64) :
    sum? first second = fit? (first.toNat + second.toNat) :=
  fit?_toNat_of_lt (UInt64.toNat_add first second)

theorem product?_eq_fit? (first second : UInt64) :
    product? first second = fit? (first.toNat * second.toNat) :=
  fit?_toNat_of_lt (UInt64.toNat_mul first second)

theorem toNat_clamp (value : Nat) : (clamp value).toNat = min value largest := by
  have size := size_eq
  unfold clamp
  split
  · rw [UInt64.toNat_ofNatLT]
    omega
  · rw [UInt64.toNat_ofNatLT]
    omega

end StreamWindow.Word
