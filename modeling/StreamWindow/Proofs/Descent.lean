import StreamWindow.Clause.Reader
import StreamWindow.Proofs.Combination
import StreamWindow.Proofs.Forward
import StreamWindow.Proofs.Skipping

/-!
The scanners of a clause held against readers that never go back. A scanner that goes back where
it stops is whole: it finds an item or takes nothing. One that is committed stops where the reader
fails, and then nothing else is tried.
-/

namespace StreamWindow

theorem item_map {α β : Type} {expected : Expected} {read : List Char → Option α} {f : α → β}
    (source : List Char) :
    item expected (fun source => (read source).map f) source = f <$> item expected read source := by
  simp only [item]
  cases read (skipLayout source) with
  | none => rfl
  | some found => rfl

def readBehind (kind : Window.Kind) (source : List Char) : Except Failure (Window × List Char) := do
  let rest ← item .openParen (symbol? '(') source
  let (window, rest) ← readBody kind rest
  let rest ← item .closeParen (symbol? ')') rest
  return (window, rest)

namespace Scanner

section

variable {α : Type} {read : List Char → Option (α × List Char)} {source rest : List Char}

def whole (read : List Char → Option (α × List Char)) : Scanner α := fun source =>
  match read source with
  | some (value, rest) => .ok value rest
  | none => .error {} source

theorem whole_run : (whole read).run source =
    match read source with
    | some (value, rest) => .ok value rest
    | none => .error {} source := rfl

theorem whole_ok_iff {value : α} :
    (whole read).run source = .ok value rest ↔ read source = some (value, rest) := by
  simp only [EStateM.run, whole]
  cases read source with
  | none => simp
  | some found => simp [Prod.ext_iff]

theorem whole_error_iff {stop : Stop} : (whole read).run source = .error stop rest ↔
    stop = {} ∧ rest = source ∧ read source = none := by
  simp only [EStateM.run, whole]
  cases read source with
  | none => simp [eq_comm]
  | some found => simp

theorem map_whole {β : Type} (change : α → β) :
    change <$> whole read = whole fun source => (read source).map (Prod.map change id) := by
  funext source
  simp only [Functor.map, EStateM.map, whole]
  cases read source with
  | none => rfl
  | some found => rfl

theorem layout_eq_whole : layout = whole fun source => some ((), skipLayout source) :=
  funext layout_run_eq

theorem keyword_eq_whole (word : String) :
    keyword word = whole fun source => (keyword? word source).map ((), ·) := by
  funext source
  change (keyword word).run source = _
  simp only [keyword, EStateM.run_bind, EStateM.run_get, takeCaseless_run, whole, keyword?]
  cases dropCaseless? word.toList source with
  | none => rfl
  | some rest =>
      simp only
      split
      · rfl
      · rfl

theorem symbol_eq_whole (char : Char) :
    takeText [char] = whole fun source => (symbol? char source).map ((), ·) := by
  funext source
  change (takeText [char]).run source = _
  rw [takeText_run]
  cases source with
  | nil => rfl
  | cons first source =>
      by_cases same : first = char
      · simp [whole, symbol?, same]
      · simp [whole, symbol?, same, Ne.symm same]

theorem letters_eq_whole : letters = whole letters? := by
  funext source
  change letters.run source = _
  simp only [letters, takeSome_run, any_head_iff, whole, letters?]
  cases source.takeWhile Char.isAlpha with
  | nil => rfl
  | cons letter letters => rfl

theorem integer_eq_whole : integer = whole integer? := by
  funext source
  change integer.run source = _
  simp only [integer, EStateM.run_bind, EStateM.run_get, takeSome_run, any_head_iff, whole,
    integer?]
  cases source.takeWhile Char.isDigit with
  | nil => rfl
  | cons digit digits =>
      rw [if_pos (List.cons_ne_nil digit digits)]
      simp only [List.isEmpty_cons, Bool.false_or, beq_iff_eq]
      by_cases point : (source.dropWhile Char.isDigit).head? = some '.'
      · rw [if_pos point, if_pos point]
        rfl
      · rw [if_neg point, if_neg point]
        cases Word.fit? (Nat.ofDigitChars 10 (digit :: digits) 0) with
        | none => rfl
        | some value => rfl

theorem trim_letters {word rest : List Char} (found : letters? source = some (word, rest)) :
    Text.trim word = word := by
  apply Text.trim_plain
  intro char member
  have inside : char.isAlpha = true := by
    unfold letters? at found
    split at found
    · contradiction
    · obtain ⟨rfl, _⟩ := Prod.mk.inj (Option.some.inj found)
      exact List.all_eq_true.mp List.all_takeWhile char member
  exact Text.isBlank_of_isAlphanum (by rw [Char.isAlphanum, inside, Bool.true_or])

theorem timeUnit_eq_whole : timeUnit = whole unit? := by
  funext source
  change timeUnit.run source = _
  simp only [timeUnit, EStateM.run_bind, EStateM.run_get, letters_eq_whole, whole_run, whole, unit?]
  cases found : letters? source with
  | none => rfl
  | some result =>
      obtain ⟨word, rest⟩ := result
      simp only [TimeUnit.read, String.toList_ofList, trim_letters found]
      cases TimeUnit.ofWord? word with
      | none => rfl
      | some unit => rfl

end

section

variable {α β : Type} {read : List Char → Except Failure (α × List Char)}

/-- Scans what a reader reads, and stops for good where the reader fails. -/
def committed (read : List Char → Except Failure (α × List Char)) : Scanner α := fun source =>
  match read source with
  | .ok (value, rest) => .ok value rest
  | .error failure => .error ⟨true, [failure.expected]⟩ failure.rest

theorem committed_run (source : List Char) : (committed read).run source =
    match read source with
    | .ok (value, rest) => .ok value rest
    | .error failure => .error ⟨true, [failure.expected]⟩ failure.rest := rfl

def dropping (read : List Char → Except Failure (List Char)) : Scanner Unit :=
  committed fun source => ((), ·) <$> read source

theorem pure_committed (value : α) : pure value = committed fun source => .ok (value, source) :=
  rfl

theorem committed_bind (later : α → List Char → Except Failure (β × List Char)) :
    (committed read >>= fun value => committed (later value)) =
      committed fun source => read source >>= fun found => later found.1 found.2 := by
  funext source
  change EStateM.bind _ _ source = _
  simp only [EStateM.bind, committed, bind, Except.bind]
  cases read source with
  | error failure => rfl
  | ok found => rfl

theorem dropping_bind (read : List Char → Except Failure (List Char))
    (later : List Char → Except Failure (β × List Char)) :
    (dropping read >>= fun _ => committed later) =
      committed fun source => read source >>= later := by
  rw [dropping, committed_bind fun _ => later]
  simp only [bind_map_left]

theorem commit_committed : commit (committed read) = committed read := by
  funext source
  change (commit (committed read)).run source = (committed read).run source
  rw [commit, adapt_run, committed_run]
  cases read source with
  | error failure => rfl
  | ok found => rfl

theorem required_run (expected : Expected) (scanner : Scanner α) (source : List Char) :
    (required expected scanner).run source =
      match scanner.run (skipLayout source) with
      | .ok value rest => .ok value rest
      | .error stop rest => .error ⟨true, stop.due ++ [expected]⟩ rest := by
  rw [required, EStateM.run_bind, layout_run_eq]
  simp only [expecting, commit, adapt_run]
  cases scanner.run (skipLayout source) with
  | ok value rest => rfl
  | error stop rest => rfl

theorem required_whole (expected : Expected) (read : List Char → Option (α × List Char)) :
    required expected (whole read) = committed (item expected read) := by
  funext source
  change (required expected (whole read)).run source = _
  rw [required_run, whole_run, committed, item]
  cases read (skipLayout source) with
  | none => rfl
  | some found => rfl

theorem required_dropping (expected : Expected) (read : List Char → Option (List Char)) :
    required expected (whole fun source => (read source).map ((), ·)) =
      dropping (item expected read) := by
  rw [required_whole, dropping]
  congr 1
  funext source
  exact item_map source

/-- What is required as one item stops at the same places as its parts do. -/
theorem required_seq (expected : Expected) (first : Scanner Unit) (second : Scanner α) :
    required expected (do first; layout; second) =
      (do required expected first; required expected second) := by
  funext source
  change (required expected _).run source = (required expected first >>= _).run source
  rw [required_run, EStateM.run_bind, EStateM.run_bind, required_run]
  cases first.run (skipLayout source) with
  | error stop rest => rfl
  | ok passed rest =>
      simp only [EStateM.run_bind, layout_run_eq, required_run]

theorem duration_eq_committed : duration = committed readDuration := by
  simp only [duration, integer_eq_whole, timeUnit_eq_whole, required_whole, pure_committed,
    committed_bind]
  rfl

def branch (kind : Window.Kind) : Scanner Window := do
  whole fun source => (keyword? kind.keyword source).map ((), ·)
  committed (readBehind kind)

theorem tumbling_eq_branch : tumbling = branch .tumbling := by
  simp only [tumbling, keyword_eq_whole, openParen, closeParen, sizeKeyword, symbol_eq_whole,
    required_dropping, duration_eq_committed, commit_committed, pure_committed, dropping_bind,
    committed_bind]
  refine bind_congr fun _ => congrArg committed (funext fun source => ?_)
  simp only [readBehind, readBody, readSize, bind_assoc, pure_bind]
  rfl

theorem hopping_eq_branch : hopping = branch .hopping := by
  simp only [hopping, required_seq, bind_assoc, keyword_eq_whole, openParen, closeParen,
    sizeKeyword, symbol_eq_whole, required_dropping, duration_eq_committed, commit_committed,
    pure_committed, dropping_bind, committed_bind]
  refine bind_congr fun _ => congrArg committed (funext fun source => ?_)
  simp only [readBehind, readBody, readSize, readAdvance, bind_assoc, pure_bind]
  rfl

theorem session_eq_branch : session = branch .session := by
  simp only [session, keyword_eq_whole, openParen, closeParen, symbol_eq_whole,
    required_dropping, duration_eq_committed, commit_committed, pure_committed, dropping_bind,
    committed_bind]
  refine bind_congr fun _ => congrArg committed (funext fun source => ?_)
  simp only [readBehind, readBody, bind_assoc, pure_bind]
  rfl

theorem either_branch_run (kind : Window.Kind) (other : Scanner Window) (source : List Char) :
    (either (branch kind) other).run source =
      match keyword? kind.keyword source with
      | some rest => (committed (readBehind kind)).run rest
      | none => other.run source := by
  rw [either_run, branch, EStateM.run_bind, whole_run]
  cases keyword? kind.keyword source with
  | none => rfl
  | some rest =>
      simp only [Option.map_some, committed_run]
      cases readBehind kind rest with
      | error failure => rfl
      | ok found => rfl

theorem window_run (source : List Char) : window.run source =
    match kind? source with
    | some (kind, rest) => (committed (readBehind kind)).run rest
    | none => .error ⟨true, [.windowKind]⟩ source := by
  rw [window, tumbling_eq_branch, hopping_eq_branch, session_eq_branch]
  simp only [either_branch_run, kind?, List.findSome?]
  cases keyword? Window.Kind.tumbling.keyword source with
  | some rest => rfl
  | none =>
      cases keyword? Window.Kind.hopping.keyword source with
      | some rest => rfl
      | none =>
          cases keyword? Window.Kind.session.keyword source with
          | some rest => rfl
          | none => rfl

theorem leading_run (source : List Char) : leading.run source = .ok () (kindStart source) := by
  simp only [leading, EStateM.run_bind, layout_run_eq, attempt_run, keyword_eq_whole, whole_run,
    kindStart]
  cases keyword? "WINDOW" (skipLayout source) with
  | none => rfl
  | some rest => exact layout_run_eq rest

end

end Scanner

theorem kindStart_solid (source : List Char) : Solid (kindStart source) := by
  simp only [kindStart]
  split
  · exact (skipLayout_spec _).2
  · exact (skipLayout_spec _).2

theorem readWindow_behind (source : List Char) : readWindow source =
    match kind? (kindStart source) with
    | none => .error ⟨.windowKind, kindStart source⟩
    | some (kind, rest) => readBehind kind rest >>= fun found =>
        match skipLayout found.2 with
        | [] => .ok found.1
        | rest => .error ⟨.endOfClause, rest⟩ := by
  have skipped := skipLayout_solid (kindStart_solid source)
  simp only [readWindow, item, skipped]
  cases kind? (kindStart source) with
  | none => rfl
  | some found =>
      simp only [readBehind, bind_assoc, pure_bind]
      rfl

/-- Scanning goes back where reading need not, but comes to the same. -/
theorem Clause.read_eq (text : String) : Clause.read text =
    readWindow text.toList >>= fun window => .ok ⟨window, Location.ofOffset? text.toList
      (Text.byteLength text.toList - Text.byteLength (kindStart text.toList))⟩ := by
  simp only [Clause.read, Scanner.wholeClause, Scanner.clause, EStateM.run_bind,
    Scanner.leading_run, EStateM.run_get, Scanner.window_run, readWindow_behind]
  cases kind? (kindStart text.toList) with
  | none => rfl
  | some found =>
      obtain ⟨kind, after⟩ := found
      simp only [Scanner.committed_run]
      cases readBehind kind after with
      | error failure => rfl
      | ok read =>
          simp only [Scanner.layout_run_eq, EStateM.run_pure, Scanner.ending_run, bind, Except.bind]
          cases skipLayout read.2 with
          | nil => rfl
          | cons char rest => rfl

end StreamWindow
