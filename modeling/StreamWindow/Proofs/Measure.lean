import StreamWindow.Location

/-! Byte offsets of the parts of a text. -/

namespace StreamWindow

theorem byteLength_eq (text : List Char) :
    Text.byteLength text = (String.ofList text).utf8ByteSize := by
  induction text with
  | nil => rfl
  | cons char text ih => simp [Text.byteLength, ih]

theorem byteLength_toList (text : String) :
    Text.byteLength text.toList = text.utf8ByteSize := by
  rw [byteLength_eq, String.ofList_toList]

theorem byteLength_append (before rest : List Char) :
    Text.byteLength (before ++ rest) = Text.byteLength before + Text.byteLength rest := by
  induction before with
  | nil => simp [Text.byteLength]
  | cons char before ih =>
      simp only [List.cons_append, Text.byteLength, ih]
      omega

theorem bytePrefix?_append (before rest : List Char) :
    Text.bytePrefix? (Text.byteLength before) (before ++ rest) = some before := by
  induction before with
  | nil => simp [Text.byteLength, Text.bytePrefix?]
  | cons char before ih =>
      have positive := char.utf8Size_pos
      obtain ⟨count, size⟩ : ∃ count, Text.byteLength (char :: before) = count + 1 :=
        ⟨Text.byteLength (char :: before) - 1, by simp only [Text.byteLength]; omega⟩
      have later : count + 1 - char.utf8Size = Text.byteLength before := by
        simp only [Text.byteLength] at size
        omega
      have fits : char.utf8Size ≤ count + 1 := by
        simp only [Text.byteLength] at size
        omega
      rw [size, List.cons_append, Text.bytePrefix?, if_pos fits, later, ih]
      rfl

theorem bytePrefix?_eq_some {text before : List Char} {count : Nat}
    (found : Text.bytePrefix? count text = some before) :
    ∃ rest, text = before ++ rest ∧
      Text.byteLength before = min count (Text.byteLength text) := by
  induction text generalizing count before with
  | nil =>
      cases count with
      | zero =>
          obtain rfl := Option.some.inj found
          exact ⟨[], rfl, rfl⟩
      | succ count =>
          obtain rfl := Option.some.inj found
          exact ⟨[], rfl, (Nat.min_zero _).symm⟩
  | cons char text ih =>
      cases count with
      | zero =>
          obtain rfl := Option.some.inj found
          exact ⟨char :: text, rfl, (Nat.zero_min _).symm⟩
      | succ count =>
          rw [Text.bytePrefix?] at found
          split at found
          · next fits =>
              obtain ⟨inner, cut, rfl⟩ := Option.map_eq_some_iff.mp found
              obtain ⟨rest, rfl, size⟩ := ih cut
              refine ⟨rest, rfl, ?_⟩
              simp only [Text.byteLength, size]
              omega
          · contradiction

theorem bytePrefix?_of_le {text : List Char} {count : Nat} (past : Text.byteLength text ≤ count) :
    Text.bytePrefix? count text = some text := by
  induction text generalizing count with
  | nil =>
      cases count with
      | zero => rfl
      | succ count => rfl
  | cons char text ih =>
      have positive := char.utf8Size_pos
      simp only [Text.byteLength] at past
      cases count with
      | zero => omega
      | succ count =>
          have later : Text.byteLength text ≤ count + 1 - char.utf8Size := by omega
          rw [Text.bytePrefix?, if_pos (by omega), ih later]
          rfl

theorem byteSuffix?_append (before rest : List Char) :
    Text.byteSuffix? (Text.byteLength before) (before ++ rest) = some rest := by
  rw [Text.byteSuffix?, bytePrefix?_append, Option.map_some, List.drop_left]

theorem byteLength_eq_zero_iff {text : List Char} : Text.byteLength text = 0 ↔ text = [] := by
  cases text with
  | nil => simp [Text.byteLength]
  | cons char text =>
      have positive := char.utf8Size_pos
      simp only [Text.byteLength, reduceCtorEq, iff_false]
      omega

theorem byteFind?_not (belongs : Char → Bool) (text : List Char) :
    Text.byteFind? (fun char => !belongs char) text =
      if text.dropWhile belongs = [] then none
      else some (Text.byteLength (text.takeWhile belongs)) := by
  induction text with
  | nil => rfl
  | cons char text ih =>
      cases inside : belongs char with
      | false => simp [Text.byteFind?, inside, Text.byteLength]
      | true =>
          rw [List.dropWhile_cons_of_pos inside, List.takeWhile_cons_of_pos inside]
          simp only [Text.byteFind?, inside, ih, Bool.not_true, Bool.false_eq_true, if_false]
          split
          · rfl
          · rfl

theorem ofOffset?_byteLength (before rest : List Char) :
    Location.ofOffset? (before ++ rest) (Text.byteLength before) =
      some (Location.after before) := by
  rw [Location.ofOffset?, bytePrefix?_append]
  rfl

theorem ofOffset?_append (before rest : List Char) :
    Location.ofOffset? (before ++ rest)
      (Text.byteLength (before ++ rest) - Text.byteLength rest) =
      some (Location.after before) := by
  rw [byteLength_append, Nat.add_sub_cancel, ofOffset?_byteLength]

end StreamWindow
