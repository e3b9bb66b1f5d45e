import StreamWindow.Log.Pattern.Escape
import StreamWindow.Log.Pattern.Nesting

/-! Classes of characters in patterns, between brackets. -/

namespace StreamWindow.Pattern

def classNames : List String :=
  ["alnum", "alpha", "ascii", "blank", "cntrl", "digit", "graph", "lower", "print", "punct",
    "space", "upper", "word", "xdigit"]

def namedClass? : List Char → Option (Bool × List Char)
  | ':' :: source =>
      let negated := source.head? = some '^'
      let source := if negated then source.tail else source
      let name := source.takeWhile (· != ':')
      match source.drop name.length with
      | ':' :: ']' :: rest =>
          if classNames.contains (String.ofList name) then some (negated, rest) else none
      | _ => none
  | _ => none

/-- Whether a class may have members other than classes in brackets. A class can do without the
other cases of its characters only where it has none. -/
def Flags.allowMembers (flags : Flags) : Bool :=
  !(flags.caseless && flags.unicode)

def dashes (flags : Flags) : Nat → Row → List Char → Row × List Char
  | 0, row, source => (row, source)
  | count + 1, row, source =>
      match source with
      | '-' :: rest => dashes flags count (row.add 0) (flags.skip rest)
      | _ => (row, source)

def openClass? (flags : Flags) (source : List Char) : Option (Row × List Char) :=
  let source := flags.skip source
  let negated := source.head? = some '^'
  let source := if negated then flags.skip source.tail else source
  let (members, rest) := match source with
    | ']' :: rest => (Row.add {} 0, rest)
    | _ => dashes flags source.length {} source
  if (negated && !flags.unicode) || (0 < members.count && !flags.allowMembers) then none
  else some (members, rest)

def Atom.isMember (flags : Flags) : Atom → Bool
  | literal char _ => if flags.unicode then flags.allowMembers else char.toNat < 0x80
  | property negated => !flags.unicode && !negated
  | edge => false
  | wordEdge => false

def Flags.glance? (flags : Flags) (source : List Char) : Option Char :=
  if flags.verbose then
    match source.dropWhile Text.isBlank with
    | '#' :: comment => comment.find? fun char => !Text.isBlank char
    | rest => rest.head?
  else source.head?

/-- Reads a member of a class or a range of them. A dash before another dash or before the
closing bracket makes no range. -/
def member? (flags : Flags) (source : List Char) : Option (List Char) := do
  let (first, rest) ← atom? flags source
  guard (first.isMember flags)
  match flags.skip rest with
  | '-' :: more =>
      if flags.glance? more = some ']' ∨ flags.glance? more = some '-' then return '-' :: more
      else do
        let (last, rest) ← atom? flags (flags.skip more)
        match first, last with
        | .literal low _, .literal high _ =>
            guard (last.isMember flags ∧ low ≤ high)
            return rest
        | _, _ => none
  | rest => return rest

def isClassOperator (first second : Char) : Bool :=
  first == second && (first == '&' || first == '-' || first == '~')

structure OpenClass where
  left : Option Nat := none
  members : Row := {}

namespace OpenClass

def depth (opened : OpenClass) : Nat :=
  match opened.left with
  | none => opened.members.depth
  | some left => max left opened.members.depth + 1

def add (opened : OpenClass) (depth : Nat) : OpenClass :=
  { opened with members := opened.members.add depth }

end OpenClass

def classEnd? (flags : Flags) :
    Nat → OpenClass → List OpenClass → List Char → Option (Nat × List Char)
  | 0, _, _, _ => none
  | count + 1, inmost, outer, source =>
      match flags.skip source with
      | [] => none
      | '[' :: rest =>
          match namedClass? rest with
          | some (negated, rest) =>
              if (negated && !flags.unicode) || !flags.allowMembers then none
              else classEnd? flags count (inmost.add 0) outer rest
          | none => do
              let (members, rest) ← openClass? flags rest
              classEnd? flags count { members } (inmost :: outer) rest
      | ']' :: rest =>
          match outer with
          | [] => some (inmost.depth + 1, rest)
          | next :: outer => classEnd? flags count (next.add (inmost.depth + 1)) outer rest
      | first :: rest =>
          if rest.head?.any (isClassOperator first) then
            classEnd? flags count { left := inmost.depth } outer rest.tail
          else do
            let rest ← member? flags (first :: rest)
            classEnd? flags count (inmost.add 0) outer rest

def bracket? (flags : Flags) (source : List Char) : Option (Nat × List Char) := do
  let (members, rest) ← openClass? flags source
  classEnd? flags (source.length + 1) { members } [] rest

end StreamWindow.Pattern
