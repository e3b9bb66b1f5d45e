import StreamWindow.Text.Blank
import StreamWindow.Text.Digits

/-! Patterns for the values of fields, character by character: the flags that hold at a place, the
layout that they allow, and escapes. -/

namespace StreamWindow.Pattern

/-- How the characters of a pattern are taken. No tables of character properties are at hand, so
what would need one is not a pattern: the classes of letters, digits and blanks as long as
`unicode` holds, and everything that is `caseless` at the same time. -/
structure Flags where
  caseless : Bool := false
  unicode : Bool := true
  verbose : Bool := false

def skipComments : Nat → List Char → List Char
  | 0, source => source
  | count + 1, source =>
      match source.dropWhile Text.isBlank with
      | '#' :: rest => skipComments count ((rest.dropWhile (· != '\n')).drop 1)
      | rest => rest

def Flags.skip (flags : Flags) (source : List Char) : List Char :=
  if flags.verbose then skipComments (source.length + 1) source else source

inductive Atom
  | literal (char : Char) (asByte : Bool)
  | property (negated : Bool)
  | edge
  | wordEdge

def characters? (flags : Flags) : Nat → List Char → Option (List Char × List Char)
  | 0, source => some ([], source)
  | count + 1, source =>
      match flags.skip source with
      | [] => none
      | first :: rest => do
          let (others, rest) ← characters? flags count rest
          return (first :: others, rest)

def codedAtom? (flags : Flags) (width : Nat) (source : List Char) :
    Option (Atom × List Char) := do
  let (digits, rest) ← characters? flags width source
  return (.literal (← Text.coded? digits) (width = 2), rest)

def isEscapable (char : Char) : Bool :=
  char.toNat < 0x80 && !char.isAlphanum && char != '<' && char != '>'

def escape? (flags : Flags) : List Char → Option (Atom × List Char)
  | [] => none
  | char :: rest =>
      if isEscapable char then some (.literal char false, rest)
      else
        match char with
        | 'a' => some (.literal '\x07' false, rest)
        | 'f' => some (.literal '\x0c' false, rest)
        | 't' => some (.literal '\t' false, rest)
        | 'n' => some (.literal '\n' false, rest)
        | 'r' => some (.literal '\r' false, rest)
        | 'v' => some (.literal '\x0b' false, rest)
        | 'x' => codedAtom? flags 2 rest
        | 'u' => codedAtom? flags 4 rest
        | 'U' => codedAtom? flags 8 rest
        | 'd' => some (.property false, rest)
        | 's' => some (.property false, rest)
        | 'w' => some (.property false, rest)
        | 'D' => some (.property true, rest)
        | 'S' => some (.property true, rest)
        | 'W' => some (.property true, rest)
        | 'A' => some (.edge, rest)
        | 'z' => some (.edge, rest)
        | 'b' => if rest.head? = some '\x7b' then none else some (.wordEdge, rest)
        | 'B' => some (.wordEdge, rest)
        | '<' => some (.wordEdge, rest)
        | '>' => some (.wordEdge, rest)
        | _ => none

def atom? (flags : Flags) : List Char → Option (Atom × List Char)
  | [] => none
  | '\\' :: rest => escape? flags rest
  | char :: rest => some (.literal char false, rest)

def Atom.isMatchable (flags : Flags) : Atom → Bool
  | literal char asByte =>
      if flags.unicode then !flags.caseless else !asByte || char.toNat < 0x80
  | property negated => !flags.unicode && !negated
  | edge => true
  | wordEdge => true

end StreamWindow.Pattern
