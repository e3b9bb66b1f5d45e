import Mathlib.Data.List.TakeWhile
import Mathlib.Data.Option.Basic
import StreamWindow.Toml.Document

/-!
Written values of a document. Every text has a written form that is read as that text, and the
decimal form of an integer is read as that integer.
-/

namespace StreamWindow.Toml

def written (char : Char) : List Char :=
  if char = '"' ∨ char = '\\' then ['\\', char]
  else if isTextChar char then [char]
  else ['\\', 'x', Nat.digitChar (char.toNat / 16), Nat.digitChar (char.toNat % 16)]

def writtenText (text : List Char) : List Char :=
  '"' :: text.flatMap written ++ ['"']

theorem coded?_digits (code : Nat) (small : code < 128) :
    Text.coded? [Nat.digitChar (code / 16), Nat.digitChar (code % 16)] =
      some (Char.ofNat code) := by
  decide +revert

theorem control_small {char : Char} (control : isTextChar char = false) : char.toNat < 128 := by
  simp only [isTextChar, Bool.or_eq_false_iff, Bool.and_eq_false_iff, decide_eq_false_iff_not,
    bne_eq_false_iff_eq] at control
  omega

theorem escape?_written {char : Char} {rest : List Char} (control : isTextChar char = false) :
    escape? ('x' :: Nat.digitChar (char.toNat / 16) :: Nat.digitChar (char.toNat % 16) :: rest) =
      some (char, rest) := by
  have coded := coded?_digits char.toNat (control_small control)
  rw [Char.ofNat_toNat] at coded
  simp only [escape?, codePoint?, List.take_succ_cons, List.take_zero, coded]
  rfl

theorem lineBody?_written (count : Nat) (done : List Char) (char : Char) (rest : List Char) :
    lineBody? .basic (count + 1) done (written char ++ rest) =
      lineBody? .basic count (char :: done) rest := by
  rw [written]
  split
  · next special =>
      rcases special with rfl | rfl
      · rfl
      · rfl
  · next plain =>
      rw [not_or] at plain
      split
      · next visible =>
          simp [lineBody?, Quoting.basic, plain, visible]
      · next control =>
          have coded := @escape?_written char rest (Bool.eq_false_iff.mpr control)
          simp only [List.cons_append, List.nil_append, lineBody?, Quoting.basic, coded]
          rfl

theorem lineBody?_text (count : Nat) (done text rest : List Char) :
    lineBody? .basic (text.length + count + 1) done (text.flatMap written ++ '"' :: rest) =
      some (done.reverse ++ text, rest) := by
  induction text generalizing done with
  | nil => simp [lineBody?, Quoting.basic]
  | cons char text ih =>
      have steps : (char :: text).length + count + 1 = (text.length + count + 1) + 1 := by
        rw [List.length_cons]
        omega
      rw [steps, List.flatMap_cons, List.append_assoc, lineBody?_written, ih]
      simp

theorem newline_not_mem_written (char : Char) : '\n' ∉ written char := by
  rw [written]
  split
  · next special => rcases special with rfl | rfl <;> decide
  · split
    · next visible =>
        rw [List.mem_singleton]
        rintro rfl
        contradiction
    · next control =>
        have digits : ∀ code < 128,
            '\n' ∉ ['\\', 'x', Nat.digitChar (code / 16), Nat.digitChar (code % 16)] := by decide
        exact digits char.toNat (control_small (Bool.eq_false_iff.mpr control))

theorem length_le_written (text : List Char) : text.length ≤ (text.flatMap written).length := by
  have one (char : Char) : 1 ≤ (written char).length := by
    rw [written]
    split
    · simp
    · split
      · simp
      · simp
  induction text with
  | nil => simp
  | cons char text ih =>
      have := one char
      rw [List.flatMap_cons, List.length_append, List.length_cons]
      omega

theorem lineString?_writtenText (text rest : List Char) :
    lineString? .basic (writtenText text ++ rest) = some (text, rest) := by
  have plain : ∀ char ∈ text.flatMap written ++ ['"'], (char != '\n') = true := by
    intro char member
    rw [bne_iff_ne]
    rintro rfl
    rcases List.mem_append.mp member with member | member
    · obtain ⟨char, _, inside⟩ := List.mem_flatMap.mp member
      exact newline_not_mem_written char inside
    · simp at member
  obtain ⟨more, enough⟩ : ∃ more,
      ((text.flatMap written ++ ['"'] ++ rest).takeWhile (· != '\n')).length =
        text.length + more := by
    have long := length_le_written text
    rw [List.takeWhile_append_of_pos plain, List.length_append, List.length_append]
    exact Nat.exists_eq_add_of_le (by omega)
  have body := lineBody?_text more [] text rest
  have quote : '"' = Quoting.basic.quote := rfl
  simp only [writtenText, List.cons_append, lineString?]
  rw [if_pos quote, enough, List.append_assoc]
  exact body

theorem written_head (char : Char) :
    ∃ first others, written char = first :: others ∧ first ≠ '"' := by
  rw [written]
  split
  · exact ⟨'\\', _, rfl, by decide⟩
  · next plain =>
      split
      · exact ⟨char, _, rfl, mt .inl plain⟩
      · exact ⟨'\\', _, rfl, by decide⟩

/-- Behind a text there must not be a further quote, which would begin a text of several lines. -/
theorem string?_writtenText {text rest : List Char} (ends : rest.head? ≠ some '"') :
    string? (writtenText text ++ rest) = some (text, rest) := by
  have single : (writtenText text ++ rest).take 3 ≠ List.replicate 3 '"' := by
    cases text with
    | nil =>
        cases rest with
        | nil => simp [writtenText]
        | cons next rest => simpa [writtenText] using ends
    | cons char text =>
        obtain ⟨first, others, spelled, different⟩ := written_head char
        simp [writtenText, spelled, different]
  have double : (writtenText text ++ rest).take 3 ≠ List.replicate 3 '\'' := by
    simp [writtenText]
  rw [string?, linesString?, linesString?, Quoting.basic, Quoting.literal, if_neg single,
    if_neg double, ← Quoting.basic, lineString?_writtenText]
  rfl

theorem ungroup?_digits {digits : List Char} (filled : digits ≠ [])
    (inside : ∀ digit ∈ digits, digit.isDigit = true) :
    ungroup? Char.isDigit digits = some digits := by
  induction digits with
  | nil => contradiction
  | cons digit digits ih =>
      obtain ⟨here, later⟩ := List.forall_mem_cons.mp inside
      cases digits with
      | nil => simp [ungroup?, here]
      | cons next digits =>
          have plain : next ≠ '_' := by
            rintro rfl
            exact absurd (later '_' List.mem_cons_self) (by decide)
          have others := ih (List.cons_ne_nil next digits) later
          rw [ungroup?, if_pos here, others]
          · rfl
          · simp
          · intro rest same
            exact plain (List.cons.inj same).1

theorem toDigits_head {number : Nat} (positive : 0 < number) :
    (Nat.toDigits 10 number).head? ≠ some '0' := by
  induction number using Nat.strongRecOn with
  | ind number ih =>
      by_cases small : number < 10
      · rw [Nat.toDigits_of_lt_base small]
        have digits : ∀ digit < 10, 0 < digit → [Nat.digitChar digit].head? ≠ some '0' := by decide
        exact digits number small positive
      · have earlier := ih (number / 10) (by omega) (by omega)
        rw [Nat.toDigits_of_base_le (by decide) (by omega)]
        cases split : Nat.toDigits 10 (number / 10) with
        | nil => exact absurd split Nat.toDigits_ne_nil
        | cons first others =>
            rw [split] at earlier
            exact earlier

theorem isDigit_of_decimal {number : Nat} {digit : Char} (member : digit ∈ Nat.toDigits 10 number) :
    digit.isDigit = true :=
  Nat.isDigit_of_mem_toDigits (by decide) (by decide) member

theorem plainDigits?_decimal (number : Nat) :
    plainDigits? (Nat.toDigits 10 number) = some (Nat.toDigits 10 number) := by
  have digits := ungroup?_digits (@Nat.toDigits_ne_nil number 10) fun _ => isDigit_of_decimal
  simp only [plainDigits?, digits, Option.bind_eq_bind, Option.bind_some]
  rw [if_neg]
  rintro ⟨zero, long⟩
  rcases Nat.eq_zero_or_pos number with rfl | positive
  · simp at long
  · exact toDigits_head positive zero

theorem integer?_decimal (number : Nat) :
    integer? (Nat.toDigits 10 number) = some (number : Int) := by
  have plain {letter : Char} (other : letter.isDigit = false) :
      letter ∉ Nat.toDigits 10 number := by
    intro member
    rw [isDigit_of_decimal member] at other
    contradiction
  have unsigned : splitSign (Nat.toDigits 10 number) = (false, Nat.toDigits 10 number) := by
    unfold splitSign
    split
    · next same => exact absurd (same ▸ List.mem_cons_self) (@plain '-' (by decide))
    · next same => exact absurd (same ▸ List.mem_cons_self) (@plain '+' (by decide))
    · rfl
  unfold integer?
  split
  · next same => exact absurd (by simp [same]) (@plain 'x' (by decide))
  · next same => exact absurd (by simp [same]) (@plain 'o' (by decide))
  · next same => exact absurd (by simp [same]) (@plain 'b' (by decide))
  · simp only [unsigned, plainDigits?_decimal, Option.bind_eq_bind, Option.bind_some,
      Nat.ofDigitChars_ten_toDigits]
    rfl

theorem integer?_toString (number : Int) : integer? (toString number).toList = some number := by
  cases number with
  | ofNat number =>
      have digits : (toString (Int.ofNat number)).toList = Nat.toDigits 10 number := Nat.toList_repr
      rw [digits, integer?_decimal]
      rfl
  | negSucc number =>
      have digits : (toString (Int.negSucc number)).toList =
          '-' :: Nat.toDigits 10 (number + 1) := by
        change ("-" ++ (number + 1).repr).toList = _
        rw [String.toList_append, Nat.toList_repr]
        rfl
      simp only [digits, integer?, splitSign, plainDigits?_decimal, Option.bind_eq_bind,
        Option.bind_some, Nat.ofDigitChars_ten_toDigits]
      rfl

/-- A name that can stand in a key without quotes. -/
structure Bare (name : List Char) : Prop where
  filled : name ≠ []
  plain : ∀ char ∈ name, isBareKeyChar char = true

section

variable {name rest : List Char}

theorem simpleKey?_bare (bare : Bare name)
    (ends : ∀ next ∈ rest.head?, isBareKeyChar next = false) :
    simpleKey? (name ++ rest) =
      some (⟨String.ofList name, ⟨name ++ rest, rest⟩⟩, rest) := by
  have stop : rest.takeWhile isBareKeyChar = [] ∧ rest.dropWhile isBareKeyChar = rest := by
    cases rest with
    | nil => exact ⟨rfl, rfl⟩
    | cons next rest => simp [ends next rfl]
  simp only [simpleKey?]
  rw [List.takeWhile_append_of_pos bare.plain, List.dropWhile_append_of_pos bare.plain, stop.1,
    stop.2, List.append_nil, if_neg]
  rw [List.isEmpty_iff]
  exact bare.filled

theorem ne_of_bare {char other : Char} (bare : isBareKeyChar char = true)
    (plain : isBareKeyChar other = false) : char ≠ other := by
  rintro rfl
  rw [bare] at plain
  contradiction

theorem Bare.head (bare : Bare name) :
    ∃ first others, name = first :: others ∧ isBareKeyChar first = true := by
  obtain ⟨first, others, rfl⟩ := List.exists_cons_of_ne_nil bare.filled
  exact ⟨first, others, rfl, bare.plain first List.mem_cons_self⟩

theorem skipBlanks_bare (bare : Bare name) : skipBlanks (name ++ rest) = name ++ rest := by
  obtain ⟨first, others, rfl, plain⟩ := bare.head
  have solid : isBlankChar first = false := by
    simp [isBlankChar, ne_of_bare plain (show isBareKeyChar ' ' = false by decide),
      ne_of_bare plain (show isBareKeyChar '\t' = false by decide)]
  rw [List.cons_append, skipBlanks, List.dropWhile_cons_of_neg (by simp [solid])]

end

/-- A line that gives a setting of a section a text. -/
def settingLine (part name text : List Char) : List Char :=
  part ++ '.' :: (name ++ ' ' :: '=' :: ' ' :: (writtenText text ++ ['\n']))

section

variable {part name text : List Char}

theorem key?_setting (sectioned : Bare part) (named : Bare name) (rest : List Char) :
    ∃ first second, key? (part ++ '.' :: (name ++ ' ' :: '=' :: rest)) =
      some (([⟨String.ofList part, first⟩], ⟨String.ofList name, second⟩), '=' :: rest) := by
  let between := '.' :: (name ++ ' ' :: '=' :: rest)
  have point : ∀ next ∈ between.head?, isBareKeyChar next = false := by
    rintro next ⟨rfl⟩
    decide
  have blank : ∀ next ∈ (' ' :: '=' :: rest).head?, isBareKeyChar next = false := by
    rintro next ⟨rfl⟩
    decide
  have last (count : Nat) : keyParts? (count + 1) (name ++ ' ' :: '=' :: rest) = some
      ([⟨String.ofList name, name ++ ' ' :: '=' :: rest, ' ' :: '=' :: rest⟩], '=' :: rest) := by
    rw [keyParts?, skipBlanks_bare named, simpleKey?_bare named blank]
    rfl
  have both (count : Nat) : keyParts? (count + 2) (part ++ between) = some
      ([⟨String.ofList part, part ++ between, between⟩,
        ⟨String.ofList name, name ++ ' ' :: '=' :: rest, ' ' :: '=' :: rest⟩], '=' :: rest) := by
    rw [keyParts?, skipBlanks_bare sectioned, simpleKey?_bare sectioned point]
    change (keyParts? (count + 1) (name ++ ' ' :: '=' :: rest) >>= _) = _
    rw [last]
    rfl
  refine ⟨⟨part ++ between, between⟩, ⟨name ++ ' ' :: '=' :: rest, ' ' :: '=' :: rest⟩, ?_⟩
  rw [key?]
  change (keyParts? (78 + 2) (part ++ between) >>= _) = _
  rw [both]
  rfl

theorem value?_written (count depth : Nat) {rest : List Char} (ends : rest.head? ≠ some '"') :
    value? (count + 1) depth (writtenText text ++ rest) =
      some (.leaf ⟨writtenText text ++ rest, rest⟩ (.text (String.ofList text)), rest) := by
  have read := @string?_writtenText text rest ends
  rw [writtenText, List.cons_append, List.cons_append] at read ⊢
  unfold value?
  simp only [read]
  rfl

theorem expression?_key (sectioned : Bare part) (count : Nat) (progress : Progress)
    (rest : List Char) : expression? count progress (part ++ rest) = do
      let ((path, key), rest) ← key? (part ++ rest)
      let rest ← mark? '=' rest
      let (value, rest) ← value? count deepest (skipBlanks rest)
      let entries ← inCurrent (assign path key value) progress.current progress.entries
      return ({ progress with entries }, rest) := by
  have blanks := @skipBlanks_bare part rest sectioned
  obtain ⟨first, others, rfl, plain⟩ := sectioned.head
  have bracket := ne_of_bare plain (show isBareKeyChar '[' = false by decide)
  have hash := ne_of_bare plain (show isBareKeyChar '#' = false by decide)
  have feed := ne_of_bare plain (show isBareKeyChar '\n' = false by decide)
  have carriage := ne_of_bare plain (show isBareKeyChar '\r' = false by decide)
  rw [List.cons_append] at blanks ⊢
  have comment : skipComment (first :: (others ++ rest)) = first :: (others ++ rest) := by
    simp [skipComment, hash]
  have newline : newline? (first :: (others ++ rest)) = none := by
    simp [newline?, feed, carriage]
  simp only [expression?, blanks]
  split
  · next same => exact absurd (List.cons.inj same).1 bracket
  · next same => exact absurd (List.cons.inj same).1 bracket
  · simp only [comment, newline, Option.isSome_none, Bool.false_eq_true, if_false]

theorem expression?_setting (sectioned : Bare part) (named : Bare name) (count : Nat) :
    ∃ first second region third, expression? (count + 1) {} (settingLine part name text) = some
      (⟨[(⟨String.ofList part, first⟩, .table second .dotted [(⟨String.ofList name, third⟩,
        .leaf region (.text (String.ofList text)))])], []⟩, ['\n']) := by
  obtain ⟨first, second, key⟩ := key?_setting sectioned named (' ' :: (writtenText text ++ ['\n']))
  have value := @value?_written text count deepest ['\n'] (by decide)
  refine ⟨first, first, ⟨writtenText text ++ ['\n'], ['\n']⟩, second, ?_⟩
  rw [settingLine, expression?_key sectioned, key]
  change (value? (count + 1) deepest (skipBlanks (' ' :: (writtenText text ++ ['\n']))) >>= _) = _
  have blank : skipBlanks (' ' :: (writtenText text ++ ['\n'])) = writtenText text ++ ['\n'] := rfl
  rw [blank, value]
  rfl

theorem lines?_nil (count more : Nat) (progress : Progress) :
    lines? count more progress [] = some progress := by
  cases more <;> rfl

theorem lines?_cons (count more : Nat) (progress : Progress) (char : Char) (source : List Char) :
    lines? count (more + 1) progress (char :: source) =
      (do
        let (progress, rest) ← expression? count progress (char :: source)
        lines? count more progress (← lineEnd? rest)) :=
  rfl

/-- Every setting can be given every text. -/
theorem document?_setting (sectioned : Bare part) (named : Bare name) (text : List Char) :
    ∃ document, document? (String.ofList (settingLine part name text)) = some document ∧
      document.data = [(String.ofList part,
        .map [(String.ofList name, .text (String.ofList text))])] := by
  let source := settingLine part name text
  obtain ⟨first, others, same, plain⟩ := sectioned.head
  have split : source = first :: source.tail := by
    simp [source, settingLine, same]
  have unmarked : ¬ source.head? = some '\ufeff' := by
    rw [split]
    simpa using ne_of_bare plain (show isBareKeyChar '\ufeff' = false by decide)
  obtain ⟨key, opened, region, third, line⟩ :=
    @expression?_setting part name text sectioned named (2 * source.length + 1)
  let entries : Entries := [(⟨String.ofList part, key⟩, .table opened .dotted
    [(⟨String.ofList name, third⟩, .leaf region (.text (String.ofList text)))])]
  have read : lines? (2 * (source.length + 1)) (source.length + 1) {} source =
      some ⟨entries, []⟩ := by
    rw [split, lines?_cons, ← split]
    change (expression? (2 * source.length + 1 + 1) {} source >>= _) = _
    rw [line]
    exact lines?_nil _ _ _
  refine ⟨⟨source, entries⟩, ?_, ?_⟩
  · simp only [document?, String.toList_ofList]
    rw [if_neg unmarked, read]
    rfl
  · simp [Document.data, entries, entriesToData, Node.toData, byName]

end

end StreamWindow.Toml
