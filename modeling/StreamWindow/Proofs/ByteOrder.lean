import Mathlib.Data.List.Sort

/-! Texts in the order of their bytes in UTF-8, which is the order of their characters. -/

namespace StreamWindow

def Text.bytes (text : String) : List UInt8 :=
  text.toUTF8.data.toList

/-- A character is written with a first byte that is greater the more bytes there are, and then
with the digits of its code in base sixty-four. -/
theorem utf8EncodeChar_cases (char : Char) :
    (char.toNat < 128 ∧ String.utf8EncodeChar char = [UInt8.ofNat char.toNat]) ∨
    (128 ≤ char.toNat ∧ char.toNat < 2048 ∧ String.utf8EncodeChar char =
      [UInt8.ofNat (char.toNat / 64 + 192), UInt8.ofNat (char.toNat % 64 + 128)]) ∨
    (2048 ≤ char.toNat ∧ char.toNat < 65536 ∧ String.utf8EncodeChar char =
      [UInt8.ofNat (char.toNat / 64 / 64 + 224), UInt8.ofNat (char.toNat / 64 % 64 + 128),
        UInt8.ofNat (char.toNat % 64 + 128)]) ∨
    (65536 ≤ char.toNat ∧ char.toNat < 1114112 ∧ String.utf8EncodeChar char =
      [UInt8.ofNat (char.toNat / 64 / 64 / 64 + 240),
        UInt8.ofNat (char.toNat / 64 / 64 % 64 + 128), UInt8.ofNat (char.toNat / 64 % 64 + 128),
        UInt8.ofNat (char.toNat % 64 + 128)]) := by
  have valid : char.toNat < 1114112 := by
    rcases char.valid with below | ⟨_, above⟩
    · exact Nat.lt_trans below (by decide)
    · exact above
  simp only [String.utf8EncodeChar, Char.toNat_val]
  split
  · exact .inl ⟨by omega, rfl⟩
  · split
    · have leading : char.toNat / 64 % 32 = char.toNat / 64 := by omega
      rw [leading]
      exact .inr (.inl ⟨by omega, by omega, rfl⟩)
    · split
      · have leading : char.toNat / 4096 % 16 = char.toNat / 64 / 64 := by omega
        rw [leading]
        exact .inr (.inr (.inl ⟨by omega, by omega, rfl⟩))
      · have leading : char.toNat / 262144 % 8 = char.toNat / 64 / 64 / 64 := by omega
        have next : char.toNat / 4096 = char.toNat / 64 / 64 := by omega
        rw [leading, next]
        exact .inr (.inr (.inr ⟨by omega, valid, rfl⟩))

theorem utf8EncodeChar_append_lt {first second : Char} (earlier : first < second)
    (rest other : List UInt8) :
    String.utf8EncodeChar first ++ rest < String.utf8EncodeChar second ++ other := by
  have less : first.toNat < second.toNat := UInt32.lt_iff_toNat_lt.mp earlier
  rcases utf8EncodeChar_cases first with
    ⟨_, bytes⟩ | ⟨_, _, bytes⟩ | ⟨_, _, bytes⟩ | ⟨_, _, bytes⟩
  all_goals
    rcases utf8EncodeChar_cases second with
      ⟨_, others⟩ | ⟨_, _, others⟩ | ⟨_, _, others⟩ | ⟨_, _, others⟩
    all_goals
      simp only [bytes, others, List.cons_append, List.nil_append, List.cons_lt_cons_iff,
        UInt8.lt_iff_toNat_lt, ← UInt8.toNat_inj, UInt8.toNat_ofNat']
      omega

theorem flatMap_utf8EncodeChar_lt {first second : List Char} (earlier : first < second) :
    first.flatMap String.utf8EncodeChar < second.flatMap String.utf8EncodeChar := by
  induction first generalizing second with
  | nil =>
      cases second with
      | nil => exact absurd earlier (List.lt_irrefl _)
      | cons char second =>
          rw [List.flatMap_nil, List.flatMap_cons]
          cases bytes : String.utf8EncodeChar char with
          | nil => exact absurd bytes String.utf8EncodeChar_ne_nil
          | cons byte bytes => exact List.nil_lt_cons _ _
  | cons char first ih =>
      cases second with
      | nil => exact absurd earlier (List.not_lt_nil _)
      | cons other second =>
          rw [List.flatMap_cons, List.flatMap_cons]
          rcases List.cons_lt_cons_iff.mp earlier with less | ⟨rfl, later⟩
          · exact utf8EncodeChar_append_lt less _ _
          · exact List.append_left_lt (ih later)

theorem bytes_eq (text : String) :
    Text.bytes text = text.toList.flatMap String.utf8EncodeChar := by
  have encoded : text.toByteArray = text.toList.utf8Encode := String.utf8Encode_toList.symm
  rw [Text.bytes, String.toUTF8_eq_toByteArray, encoded, List.utf8Encode,
    List.toList_data_toByteArray]

theorem bytes_lt_of_lt {first second : String} (earlier : first < second) :
    Text.bytes first < Text.bytes second := by
  rw [bytes_eq, bytes_eq]
  exact flatMap_utf8EncodeChar_lt (String.lt_iff.mp earlier)

theorem bytes_lt_iff {first second : String} :
    Text.bytes first < Text.bytes second ↔ first < second := by
  refine ⟨fun earlier => ?_, bytes_lt_of_lt⟩
  -- Were the second text no later, its bytes would come first too, or be the same.
  refine String.not_le.mp fun behind => ?_
  by_cases before : second < first
  · exact List.lt_irrefl _ (List.lt_trans earlier (bytes_lt_of_lt before))
  · obtain rfl := String.le_antisymm behind (String.not_lt.mp before)
    exact List.lt_irrefl _ earlier

end StreamWindow
