import Mathlib.Data.List.Induction
import StreamWindow.Proofs.Refusal

/-!
Places in a source. Going through a text character by character each place is later than the one
before it, the line and the column of a place lead back to where it is, and reading comes to no
place inside a character.
-/

namespace StreamWindow

/-! Lines. -/

theorem lastLine_append_singleton (text : List Char) (char : Char) :
    Text.lastLine (text ++ [char]) =
      if char = '\n' then [] else Text.lastLine text ++ [char] := by
  unfold Text.lastLine
  rw [List.reverse_append, List.reverse_singleton, List.singleton_append, List.takeWhile_cons]
  by_cases newline : char = '\n'
  · simp [newline]
  · simp [newline]

theorem newline_not_mem_lastLine (text : List Char) : '\n' ∉ Text.lastLine text := by
  intro member
  have plain := List.all_eq_true.mp List.all_takeWhile '\n' (List.mem_reverse.mp member)
  contradiction

theorem exists_lines_above (text : List Char) : ∃ above : List (List Char),
    text = above.flatMap (· ++ ['\n']) ++ Text.lastLine text ∧
      above.length = text.count '\n' ∧ ∀ line ∈ above, '\n' ∉ line := by
  -- From the end of the text, where one more character either lengthens the last line or ends it.
  induction text using List.reverseRecOn with
  | nil => exact ⟨[], rfl, rfl, by simp⟩
  | append_singleton text char ih =>
      obtain ⟨above, split, count, plain⟩ := ih
      rw [lastLine_append_singleton, List.count_append, List.count_singleton]
      by_cases newline : char = '\n'
      · subst newline
        refine ⟨above ++ [Text.lastLine text], ?_, by simp [count], ?_⟩
        · simp only [List.flatMap_append, List.flatMap_singleton, if_true, List.append_nil,
            ← List.append_assoc, ← split]
        · intro line member
          rcases List.mem_append.mp member with earlier | last
          · exact plain line earlier
          · obtain rfl := List.mem_singleton.mp last
            exact newline_not_mem_lastLine text
      · refine ⟨above, ?_, by simp [count, newline], plain⟩
        rw [if_neg newline, ← List.append_assoc, ← split]

theorem splitOn_lines {above : List (List Char)} (plain : ∀ line ∈ above, '\n' ∉ line)
    (rest : List Char) :
    (above.flatMap (· ++ ['\n']) ++ rest).splitOn '\n' = above ++ rest.splitOn '\n' := by
  induction above with
  | nil => rfl
  | cons line above ih =>
      have noNewline : ∀ char ∈ line, (char == '\n') = false := by
        intro char member
        rw [beq_eq_false_iff_ne]
        rintro rfl
        exact plain line List.mem_cons_self member
      have later := ih fun other member => plain other (List.mem_cons_of_mem line member)
      rw [List.flatMap_cons, List.append_assoc, List.append_assoc, List.singleton_append,
        List.cons_append, ← later]
      exact List.splitOnP_append_cons_of_forall_mem noNewline '\n' rfl _

theorem splitOn_line {line : List Char} (plain : '\n' ∉ line) (rest : List Char) :
    ∃ more later, (line ++ rest).splitOn '\n' = (line ++ more) :: later := by
  induction line with
  | nil => exact List.exists_cons_of_ne_nil (List.splitOn_ne_nil '\n' rest)
  | cons char line ih =>
      simp only [List.mem_cons, not_or] at plain
      obtain ⟨more, later, split⟩ := ih plain.2
      have different : (char == '\n') = false := beq_eq_false_iff_ne.mpr (Ne.symm plain.1)
      refine ⟨more, later, ?_⟩
      rw [List.splitOn] at split ⊢
      rw [List.cons_append, List.splitOnP_cons_eq_if_modifyHead, different, split]
      rfl

/-! Cutting at a byte offset. -/

theorem toUpper_utf8Size (char : Char) : char.toUpper.utf8Size = char.utf8Size := by
  unfold Char.toUpper
  split
  · next lower =>
      have range : 97 ≤ char.val.toNat ∧ char.val.toNat ≤ 122 := by
        simpa [UInt32.le_iff_toNat_le] using lower
      have short : char.val ≤ 127 := by
        rw [UInt32.le_iff_toNat_le]
        exact Nat.le_trans range.2 (by decide)
      have shortUpper : char.val + ('A'.val - 'a'.val) ≤ 127 := by
        have shift : ('A'.val - 'a'.val).toNat = 4294967264 := rfl
        have bound : UInt32.toNat 127 = 127 := rfl
        rw [UInt32.le_iff_toNat_le, UInt32.toNat_add]
        omega
      rw [Char.utf8Size_eq_one_iff.mpr short]
      exact Char.utf8Size_eq_one_iff.mpr shortUpper
  · rfl

theorem byteLength_map_toUpper (text : List Char) :
    Text.byteLength (text.map Char.toUpper) = Text.byteLength text := by
  induction text with
  | nil => rfl
  | cons char text ih => simp only [List.map_cons, Text.byteLength, toUpper_utf8Size, ih]

theorem isValid_iff {source : String} {offset : Nat} :
    (⟨offset⟩ : String.Pos.Raw).IsValid source ↔
      ∃ before rest, source.toList = before ++ rest ∧ Text.byteLength before = offset := by
  rw [String.Pos.Raw.isValid_iff_exists_append]
  constructor
  · rintro ⟨before, rest, rfl, place⟩
    refine ⟨before.toList, rest.toList, String.toList_append, ?_⟩
    rw [byteLength_toList]
    exact (congrArg String.Pos.Raw.byteIdx place).symm
  · rintro ⟨before, rest, split, rfl⟩
    refine ⟨String.ofList before, String.ofList rest, ?_, ?_⟩
    · rw [← String.ofList_append, ← split, String.ofList_toList]
    · rw [byteLength_eq]
      rfl

namespace Location

def Precedes (first second : Location) : Prop :=
  first.line < second.line ∨ first.line = second.line ∧ first.column < second.column

def offset? (location : Location) (source : List Char) : Option Nat := do
  let lines := source.splitOn '\n'
  let line ← lines[location.line - 1]?
  let above := (lines.take (location.line - 1)).flatMap (· ++ ['\n'])
  if location.column - 1 ≤ line.length then
    some (Text.byteLength above + Text.byteLength (line.take (location.column - 1)))
  else none

theorem Precedes.trans {first second third : Location} (earlier : first.Precedes second)
    (early : second.Precedes third) : first.Precedes third := by
  unfold Precedes at *
  omega

theorem after_precedes_step (text : List Char) (char : Char) :
    (after text).Precedes (after (text ++ [char])) := by
  simp only [Precedes, after, lastLine_append_singleton, List.count_append, List.count_singleton]
  by_cases newline : char = '\n'
  · left
    simp only [newline, beq_self_eq_true, if_true]
    omega
  · right
    simp [newline]

theorem after_precedes (before : List Char) {between : List Char} (filled : between ≠ []) :
    (after before).Precedes (after (before ++ between)) := by
  induction between generalizing before with
  | nil => contradiction
  | cons char between ih =>
      have step := after_precedes_step before char
      by_cases last : between = []
      · rwa [last]
      · have later := ih (before ++ [char]) last
        rw [List.append_assoc, List.singleton_append] at later
        exact step.trans later

theorem offset?_after (before rest : List Char) :
    (after before).offset? (before ++ rest) = some (Text.byteLength before) := by
  obtain ⟨above, split, count, plain⟩ := exists_lines_above before
  obtain ⟨more, later, line⟩ := splitOn_line (newline_not_mem_lastLine before) rest
  have lines : (before ++ rest).splitOn '\n' =
      above ++ (Text.lastLine before ++ more) :: later := by
    conv_lhs => rw [split, List.append_assoc, splitOn_lines plain, line]
  have short : (Text.lastLine before).length ≤ (Text.lastLine before ++ more).length := by
    rw [List.length_append]
    omega
  simp only [offset?, after, lines, Nat.add_sub_cancel, ← count, List.take_left,
    List.getElem?_append_right (Nat.le_refl above.length), Nat.sub_self, List.getElem?_cons_zero]
  rw [Option.bind_eq_bind, Option.bind_some, if_pos short, List.take_left, ← byteLength_append,
    ← split]

theorem ofOffset?_split {source before rest : List Char} (split : source = before ++ rest) :
    ofOffset? source (Text.byteLength before) = some (after before) := by
  rw [split, ofOffset?_byteLength]

theorem ofOffset?_of_le {source : List Char} {offset : Nat}
    (past : Text.byteLength source ≤ offset) :
    ofOffset? source offset = ofOffset? source (Text.byteLength source) := by
  rw [ofOffset?, ofOffset?, bytePrefix?_of_le past, bytePrefix?_of_le (Nat.le_refl _)]

theorem exists_ofOffset?_iff {source : String} {offset : Nat} :
    (∃ place, ofOffset? source.toList offset = some place) ↔
      (⟨min offset source.utf8ByteSize⟩ : String.Pos.Raw).IsValid source := by
  rw [isValid_iff, ← byteLength_toList]
  constructor
  · rintro ⟨place, found⟩
    obtain ⟨before, cut, _⟩ := Option.map_eq_some_iff.mp found
    obtain ⟨rest, split, length⟩ := bytePrefix?_eq_some cut
    exact ⟨before, rest, split, length⟩
  · rintro ⟨before, rest, split, length⟩
    by_cases past : Text.byteLength source.toList ≤ offset
    · rw [ofOffset?_of_le past]
      exact ⟨_, ofOffset?_split (List.append_nil _).symm⟩
    · have same : offset = Text.byteLength before := by omega
      rw [same]
      exact ⟨_, ofOffset?_split split⟩

theorem ofOffset?_precedes {source : String} {first second : Nat}
    (firstValid : (⟨first⟩ : String.Pos.Raw).IsValid source)
    (secondValid : (⟨second⟩ : String.Pos.Raw).IsValid source) (earlier : first < second) :
    ∃ place later, ofOffset? source.toList first = some place ∧
      ofOffset? source.toList second = some later ∧ place.Precedes later := by
  obtain ⟨before, rest, split, rfl⟩ := isValid_iff.mp firstValid
  obtain ⟨longer, tail, splitLonger, rfl⟩ := isValid_iff.mp secondValid
  refine ⟨_, _, ofOffset?_split split, ofOffset?_split splitLonger, ?_⟩
  -- Of two beginnings of one text one begins the other.
  rcases List.append_eq_append_iff.mp (split.symm.trans splitLonger) with
    ⟨between, rfl, _⟩ | ⟨between, rfl, _⟩
  · apply after_precedes
    rintro rfl
    rw [List.append_nil] at earlier
    exact Nat.lt_irrefl _ earlier
  · rw [byteLength_append] at earlier
    omega

theorem offset?_ofOffset? {source : String} {offset : Nat}
    (valid : (⟨offset⟩ : String.Pos.Raw).IsValid source) :
    ∃ place, ofOffset? source.toList offset = some place ∧
      place.offset? source.toList = some offset := by
  obtain ⟨before, rest, split, rfl⟩ := isValid_iff.mp valid
  refine ⟨_, ofOffset?_split split, ?_⟩
  rw [split]
  exact offset?_after before rest

end Location

/-! Reading. -/

/-- What can remain of a source when layout, words in any case, symbols and runs of characters of
one class are taken off its front, one after the other. -/
inductive Remainder (source : List Char) : List Char → Prop
  | whole : Remainder source source
  | layout {rest} : Remainder source rest → Remainder source (skipLayout rest)
  | word {rest after} (word : List Char) : Remainder source rest →
      dropCaseless? word rest = some after → Remainder source after
  | symbol {rest after} (char : Char) : Remainder source rest → symbol? char rest = some after →
      Remainder source after
  | run {rest} (belongs : Char → Bool) : Remainder source rest →
      Remainder source (rest.dropWhile belongs)

theorem Remainder.trans {source middle rest : List Char} (first : Remainder source middle)
    (second : Remainder middle rest) : Remainder source rest := by
  induction second with
  | whole => exact first
  | layout _ ih => exact ih.layout
  | word word _ found ih => exact ih.word word found
  | symbol char _ found ih => exact ih.symbol char found
  | run belongs _ ih => exact ih.run belongs

theorem Remainder.suffix {source rest : List Char} (remains : Remainder source rest) :
    rest <:+ source := by
  induction remains with
  | whole => exact List.suffix_refl source
  | @layout rest _ ih => exact (skipLayout_spec rest).1.suffix.trans ih
  | word word _ found ih =>
      obtain ⟨spelling, split, _⟩ := dropCaseless?_eq_some_iff.mp found
      exact (show _ <:+ _ from ⟨spelling, split.symm⟩).trans ih
  | symbol char _ found ih =>
      have split := symbol?_eq_some_iff.mp found
      exact (show _ <:+ _ from ⟨[char], split.symm⟩).trans ih
  | run belongs _ ih => exact (List.dropWhile_suffix belongs).trans ih

theorem byteSuffix?_of_dropCaseless? {word source rest : List Char}
    (found : dropCaseless? word source = some rest) :
    Text.byteSuffix? (Text.byteLength word) source = some rest := by
  obtain ⟨spelling, rfl, spelled⟩ := dropCaseless?_eq_some_iff.mp found
  have same : Text.byteLength word = Text.byteLength spelling := by
    rw [← byteLength_map_toUpper, ← spelled, byteLength_map_toUpper]
  rw [same, byteSuffix?_append]

theorem Remainder.keyword {word : String} {source rest : List Char}
    (found : keyword? word source = some rest) : Remainder source rest := by
  obtain ⟨spelled, _⟩ := keyword?_eq_some_iff.mp found
  exact Remainder.whole.word word.toList (dropCaseless?_eq_some_iff.mpr spelled)

theorem Remainder.of_read? {next : Item} {source rest : List Char}
    (found : next.read? source = some rest) : Remainder source rest := by
  cases next with
  | keyword word _ _ => exact .keyword found
  | symbol char _ _ => exact Remainder.whole.symbol char found
  | magnitude =>
      obtain ⟨⟨value, digits, run, _⟩, _⟩ := Item.read?_eq_some_iff.mp found
      obtain ⟨_, _, rfl⟩ := run_iff.mp run
      exact Remainder.whole.run Char.isDigit
  | unit =>
      obtain ⟨unit, word, run, _⟩ := Item.read?_eq_some_iff.mp found
      obtain ⟨_, _, rfl⟩ := run_iff.mp run
      exact Remainder.whole.run Char.isAlpha

theorem remainder_of_item {next : Item} {source after : List Char}
    (found : item next.expected next.read? source = .ok after) : Remainder source after := by
  obtain ⟨start, layout, here⟩ := item_here_iff.mp found
  obtain rfl := layout_solid_iff.mp ⟨layout, here.solid⟩
  exact Remainder.whole.layout.trans (.of_read? (Item.read?_eq_some_iff.mpr here))

theorem remainder_kindStart (source : List Char) : Remainder source (kindStart source) := by
  simp only [kindStart]
  split
  · next rest found => exact (Remainder.whole.layout.trans (.keyword found)).layout
  · exact Remainder.whole.layout

theorem remainder_of_walk {items : List Item} {source rest : List Char}
    (walked : walk items source = .ok rest) : Remainder source rest := by
  induction items generalizing source with
  | nil =>
      obtain rfl := Except.ok.inj walked
      exact .whole
  | cons next items ih =>
      obtain ⟨after, found, later⟩ := bind_eq_ok_iff.mp walked
      exact (remainder_of_item found).trans (ih later)

theorem remainder_of_readRest {items : List Item} {source : List Char} {failure : Failure}
    (failed : readRest items source = .error failure) : Remainder source failure.rest := by
  induction items generalizing source with
  | nil =>
      rw [readRest_nil, finish_eq_error_iff] at failed
      rw [failed.1]
      exact Remainder.whole.layout
  | cons next items ih =>
      rw [readRest_cons, bind_eq_error_iff] at failed
      rcases failed with missing | ⟨after, found, failed⟩
      · rw [(item_eq_error_iff.mp missing).1]
        exact Remainder.whole.layout
      · exact (remainder_of_item found).trans (ih failed)

theorem remainder_behind_kind {kind : Window.Kind} {source after : List Char}
    (here : Keyword kind.keyword (kindStart source) after) : Remainder source after :=
  (remainder_kindStart source).trans (.keyword (keyword?_eq_some_iff.mpr here))

theorem remainder_of_failure {text : String} {failure : Failure}
    (failed : Clause.read text = .error failure) : Remainder text.toList failure.rest := by
  rcases readWindow_error_iff.mp (read_eq_error_iff.mp failed) with
    ⟨rfl, _⟩ | ⟨kind, after, here, failed⟩
  · exact remainder_kindStart text.toList
  · exact (remainder_behind_kind here).trans (remainder_of_readRest failed)

theorem Remainder.valid {text : String} {rest : List Char} (remains : Remainder text.toList rest) :
    Text.byteLength rest ≤ text.utf8ByteSize ∧
      (⟨text.utf8ByteSize - Text.byteLength rest⟩ : String.Pos.Raw).IsValid text := by
  obtain ⟨before, split⟩ := remains.suffix
  have size : text.utf8ByteSize = Text.byteLength before + Text.byteLength rest := by
    rw [← byteLength_append, split, byteLength_toList]
  rw [isValid_iff, size]
  exact ⟨by omega, before, rest, split.symm, by omega⟩

theorem kind_at_kindStart {window : Window} {source : List Char}
    (read : readWindow source = .ok window) :
    ∃ after, Keyword window.kind.keyword (kindStart source) after := by
  obtain ⟨start, layout, _, text, _⟩ := readWindow_iff_kindStart.mp read
  obtain ⟨after, keyword⟩ := windowText_kind text
  have same := layout.skip_eq
  rw [skipLayout_solid (kindStart_solid source),
    skipLayout_solid (keyword.solid (kind_letter window.kind))] at same
  rw [same]
  exact ⟨after, keyword⟩

theorem place_of_read {text : String} {clause : Clause} (read : Clause.read text = .ok clause) :
    ∃ place before start after, clause.location = some place ∧
      text.toList = before ++ start ∧
      place.offset? text.toList = some (Text.byteLength before) ∧
      Keyword clause.window.kind.keyword start after ∧
      (Layout text.toList start ∨
        Sequence [Layout, Keyword "WINDOW", Layout] text.toList start) := by
  obtain ⟨before, split, derived, location⟩ := read_iff.mp read
  obtain ⟨after, keyword⟩ := kind_at_kindStart (readWindow_iff.mpr derived)
  refine ⟨_, before, _, after, location, split, ?_, keyword, kindStart_spec text.toList⟩
  have back := Location.offset?_after before (kindStart text.toList)
  rwa [← split] at back

example : Location.ofOffset? "é\nab".toList 4 = some ⟨2, 2⟩ ∧
    Location.ofOffset? "é\nab".toList 1 = none := by decide

end StreamWindow
