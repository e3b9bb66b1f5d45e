import StreamWindow.Text.Excerpt

/-! Failures to read a clause: what was due, the source that was found there instead, and the
message about it. -/

namespace StreamWindow

inductive Expected
  | windowKind | openParen | sizeKeyword | magnitude | unit | comma | advanceBy | closeParen
  | endOfClause
  deriving DecidableEq, Repr

namespace Expected

def description : Expected → String
  | windowKind => "window kind (TUMBLING|HOPPING|SESSION)"
  | openParen => "'('"
  | sizeKeyword => "SIZE"
  | magnitude => "non-negative integer duration"
  | unit => "time unit (MILLISECONDS|SECONDS|MINUTES|HOURS|DAYS)"
  | comma => "',' before ADVANCE BY"
  | advanceBy => "ADVANCE BY"
  | closeParen => "closing ')'"
  | endOfClause => ""

def advice : Expected → String
  | endOfClause => ""
  | expected => s!"expected {expected.description}"

end Expected

structure Failure where
  expected : Expected
  rest : List Char
  deriving DecidableEq, Repr

namespace Failure

def offset (failure : Failure) (source : String) : Nat :=
  Text.byteLength source.toList - Text.byteLength failure.rest

def message (failure : Failure) (source : String) : String :=
  let chars := source.toList
  let indent := Text.Excerpt.repeated ' ' (failure.offset source)
  let excerpt :=
    if chars.contains '\n' then
      (Text.Excerpt.before chars failure.rest).text "parse error" 1
    else s!"{source}\n{indent}^\n"
  s!"parse error: {excerpt}{failure.expected.advice}"

end Failure

end StreamWindow
