import StreamWindow.Clause.Scanner
import StreamWindow.Word

/-! The lexical items of a window clause. Letters, digits and cases are those of ASCII. -/

namespace StreamWindow

def isSpace (char : Char) : Bool :=
  char == ' ' || char == '\t' || char == '\r' || char == '\n'

def isWordChar (char : Char) : Bool :=
  char.isAlphanum || char == '_'

namespace Scanner

def keyword (word : String) : Scanner Unit := do
  let saved ← get
  takeCaseless word
  if (← get).head?.any isWordChar then backtrack saved

def letters : Scanner (List Char) :=
  takeSome Char.isAlpha

def integer : Scanner UInt64 := do
  let saved ← get
  let digits ← takeSome Char.isDigit
  if (← get).head? = some '.' then backtrack saved
  match Word.fit? (Nat.ofDigitChars 10 digits 0) with
  | some value => return value
  | none => backtrack saved

/-- Drops spaces, and then a comment if one begins. Without a comment there is nothing more to
drop. -/
def layoutRound : Scanner Bool := do
  let _ ← takeAll isSpace
  match ← attempt (takeText ['-', '-']) with
  | some _ =>
      let _ ← takeAll (· != '\n')
      return true
  | none => return false

theorem layoutRound_run (source : List Char) : layoutRound.run source =
    if ['-', '-'].isPrefixOf (source.dropWhile isSpace) then
      .ok true (((source.dropWhile isSpace).drop 2).dropWhile (· != '\n'))
    else .ok false (source.dropWhile isSpace) := by
  cases comment : ['-', '-'].isPrefixOf (source.dropWhile isSpace) with
  | true =>
      simp only [layoutRound, EStateM.run_bind, takeAll_run, attempt_run, takeText_run, comment,
        if_true]
      rfl
  | false =>
      simp only [layoutRound, EStateM.run_bind, takeAll_run, attempt_run, takeText_run, comment,
        Bool.false_eq_true, if_false]
      rfl

theorem layoutRound_shorter {source rest : List Char}
    (again : layoutRound.run source = .ok true rest) : rest.length + 2 ≤ source.length := by
  rw [layoutRound_run] at again
  split at again
  · next comment =>
      obtain ⟨_, rfl⟩ := EStateM.Result.ok.inj again
      have dropped := (List.dropWhile_suffix isSpace (l := source)).length_le
      have marked := (List.isPrefixOf_iff_prefix.mp comment).length_le
      have body := (List.dropWhile_suffix (· != '\n')
        (l := (source.dropWhile isSpace).drop 2)).length_le
      rw [List.length_drop] at body
      simp only [List.length_cons, List.length_nil] at marked
      omega
  · cases again

def layout : Scanner Unit := fun source =>
  match found : layoutRound.run source with
  | .ok true rest =>
      have := layoutRound_shorter found
      layout rest
  | .ok false rest => .ok () rest
  | .error stop rest => .error stop rest
termination_by source => source.length

theorem layout_run (source : List Char) : layout.run source =
    match layoutRound.run source with
    | .ok true rest => layout.run rest
    | .ok false rest => .ok () rest
    | .error stop rest => .error stop rest := by
  rw [EStateM.run, layout]
  split
  · next found =>
      simp only [found]
      rfl
  · next found => rw [found]
  · next found => rw [found]

end Scanner

inductive Lexeme
  | layout | letters | integer
  | keyword (word : String)

inductive Token
  | passed
  | letters (word : List Char)
  | integer (value : UInt64)
  deriving DecidableEq, Repr

namespace Lexeme

def scan : Lexeme → Scanner Token
  | layout => do
      Scanner.layout
      return .passed
  | letters => return .letters (← Scanner.letters)
  | integer => return .integer (← Scanner.integer)
  | keyword word => do
      Scanner.keyword word
      return .passed

def outcome (lexeme : Lexeme) (source : List Char) : Option Token × List Char :=
  match lexeme.scan.run source with
  | .ok token rest => (some token, rest)
  | .error _ rest => (none, rest)

/-- The outcomes of scanning items one after the other. After a failure the next item is scanned
where the failure left the source. -/
def outcomes : List Lexeme → List Char → List (Option Token × List Char)
  | [], _ => []
  | next :: later, source => next.outcome source :: outcomes later (next.outcome source).2

end Lexeme

end StreamWindow
