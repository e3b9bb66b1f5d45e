/-! Blank characters (Unicode White_Space) and trimming. -/

namespace StreamWindow.Text

def isBlank (char : Char) : Bool :=
  let point := char.toNat
  (9 ≤ point && point ≤ 13) || point == 0x20 || point == 0x85 || point == 0xA0 ||
    point == 0x1680 || (0x2000 ≤ point && point ≤ 0x200A) || point == 0x2028 ||
    point == 0x2029 || point == 0x202F || point == 0x205F || point == 0x3000

def trim (chars : List Char) : List Char :=
  ((chars.dropWhile isBlank).reverse.dropWhile isBlank).reverse

theorem isBlank_of_isAlphanum {char : Char} (inside : char.isAlphanum = true) :
    isBlank char = false := by
  have ranges : ((65 ≤ char.toNat ∧ char.toNat ≤ 90) ∨ 97 ≤ char.toNat ∧ char.toNat ≤ 122) ∨
      48 ≤ char.toNat ∧ char.toNat ≤ 57 := by
    delta Char.isAlphanum Char.isAlpha Char.isUpper Char.isLower Char.isDigit at inside
    simpa [UInt32.le_iff_toNat_le] using inside
  simp only [isBlank, Bool.or_eq_false_iff, Bool.and_eq_false_iff, decide_eq_false_iff_not,
    beq_eq_false_iff_ne]
  omega

theorem trim_plain {chars : List Char} (plain : ∀ char ∈ chars, isBlank char = false) :
    trim chars = chars := by
  have kept {chars : List Char} (plain : ∀ char ∈ chars, isBlank char = false) :
      chars.dropWhile isBlank = chars := by
    cases chars with
    | nil => rfl
    | cons first rest => simp [plain first List.mem_cons_self]
  have reversed : ∀ char ∈ chars.reverse, isBlank char = false := by
    simpa using plain
  rw [trim, kept plain, kept reversed, List.reverse_reverse]

end StreamWindow.Text
