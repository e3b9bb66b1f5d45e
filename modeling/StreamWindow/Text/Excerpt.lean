import StreamWindow.Text.Measure

/-! Regions of a source of several lines, and excerpts that show where they start: one line of
the source, with carets under the place. -/

namespace StreamWindow.Text

structure Region where
  start : List Char
  stop : List Char

def Region.width (region : Region) : Nat :=
  byteLength region.start - byteLength region.stop

structure Excerpt where
  line : Nat
  indent : Nat
  content : List Char

namespace Excerpt

/-- The place between two parts of a source. A character of several bytes directly after the
place makes the indent count bytes. At the end the place is taken to be one further than the
last character. -/
def between (before rest : List Char) : Excerpt :=
  match rest with
  | char :: _ =>
      let start := lastLine before
      { line := before.count '\n' + 1
        indent := if char.utf8Size = 1 then start.length else byteLength start
        content := start ++ rest.takeWhile (· != '\n') }
  | [] =>
      let start := lastLine before.dropLast
      { line := before.dropLast.count '\n' + 1
        indent := start.length + 1
        content := start ++ (before.getLast?.toList.takeWhile (· != '\n')) }

def before (source rest : List Char) : Excerpt :=
  between (source.take (source.length - rest.length)) rest

def repeated (char : Char) (count : Nat) : String :=
  String.ofList (List.replicate count char)

/-- The excerpt under a heading. The carets are as many as the width, of which there is at least
one and which does not go beyond the line. -/
def text (excerpt : Excerpt) (heading : String) (width : Nat) : String :=
  let number := toString excerpt.line
  let gutter := repeated ' ' number.length
  let indent := repeated ' ' excerpt.indent
  let carets := repeated '^' (max 1 (min width (byteLength excerpt.content - excerpt.indent)))
  s!"{heading} at line {number}, column {excerpt.indent + 1}\n" ++
    s!"{gutter} |\n" ++
    s!"{number} | {String.ofList excerpt.content}\n" ++
    s!"{gutter} | {indent}{carets}\n"

end Excerpt

def Region.excerpt (region : Region) (source : List Char) (heading : String) : String :=
  (Excerpt.before source region.start).text heading region.width

end StreamWindow.Text
