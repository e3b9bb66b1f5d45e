import StreamWindow.Log.Pattern.Bracket
import StreamWindow.Text.CodePoints

/-! Patterns for the values of fields: whether a text is a pattern at all. A pattern may be a
number, or else a regular expression. Repetitions are not counted, and nothing looks around. -/

namespace StreamWindow.Pattern

inductive Failure
  | malformed
  | wordEdge
  deriving DecidableEq, Repr

def Failure.message : Failure → String
  | malformed => "error building NFA"
  | wordEdge =>
      "unsupported regex feature for DFAs: cannot build DFAs for regexes with Unicode word " ++
        "boundaries; switch to ASCII word boundaries, or heuristically enable Unicode word " ++
        "boundaries or use a different regex engine"

def digits? (source : List Char) : Option (List Char) :=
  let whole := source.takeWhile Char.isDigit
  match source.drop whole.length with
  | '.' :: rest =>
      if whole.isEmpty && !rest.head?.any Char.isDigit then none
      else some (rest.dropWhile Char.isDigit)
  | rest => if whole.isEmpty then none else some rest

def unsigned (source : List Char) : List Char :=
  match source with
  | '+' :: rest => rest
  | '-' :: rest => rest
  | source => source

def isNumber (source : List Char) : Bool :=
  let source := (unsigned source).map Char.toLower
  ["inf", "infinity", "nan"].contains (String.ofList source) ||
    match digits? source with
    | none => false
    | some [] => true
    | some (mark :: rest) =>
        let exponent := unsigned rest
        mark == 'e' && !exponent.isEmpty && exponent.all Char.isDigit

def flagLetters : List Char := ['i', 'm', 's', 'U', 'u', 'R', 'x']

/-- Letters for flags, of which none comes twice. Those behind a dash are negated, and behind the
only dash there is one at least. -/
def areFlags (letters : List Char) : Bool :=
  letters.all (fun letter => letter == '-' || flagLetters.contains letter) &&
    letters.eraseDups == letters && letters.getLast? != some '-'

def Flags.given (flags : Flags) (letters : List Char) : Flags :=
  let positive := letters.takeWhile (· != '-')
  let value (letter : Char) (before : Bool) : Bool :=
    if letters.contains letter then positive.contains letter else before
  { caseless := value 'i' flags.caseless
    unicode := value 'u' flags.unicode
    verbose := value 'x' flags.verbose }

structure Progress where
  flags : Flags := {}
  alternatives : Row := {}
  parts : Row := {}
  outer : List (Flags × Row × Row) := []
  names : List (List Char) := []
  repeatable : Bool := false
  hasWordEdge : Bool := false

namespace Progress

def enter (progress : Progress) (flags : Flags) : Progress :=
  let group := (progress.flags, progress.alternatives, progress.parts)
  { progress with
    flags, alternatives := {}, parts := {}, outer := group :: progress.outer, repeatable := false }

def depth (progress : Progress) : Nat :=
  (progress.alternatives.add progress.parts.depth).depth

def add (progress : Progress) (depth : Nat) : Progress :=
  { progress with parts := progress.parts.add depth, repeatable := true }

def change (progress : Progress) (flags : Flags) : Progress :=
  { progress with flags, parts := progress.parts.add 0, repeatable := false }

def leave? (progress : Progress) : Option Progress :=
  match progress.outer with
  | [] => none
  | (flags, alternatives, parts) :: outer =>
      some ({ progress with flags, alternatives, parts, outer }.add (progress.depth + 1))

def isName (chars : List Char) : Bool :=
  match chars with
  | [] => false
  | first :: rest =>
      (first == '_' || Text.isAlphabetic first) && rest.all fun char =>
        char == '_' || char == '.' || char == '[' || char == ']' || Text.isAlphanumeric char

def named? (progress : Progress) (source : List Char) : Option (Progress × List Char) := do
  let name := source.takeWhile (· != '>')
  guard (isName name && !progress.names.contains name)
  match source.drop name.length with
  | _ :: rest =>
      return ({ progress.enter progress.flags with names := name :: progress.names }, rest)
  | [] => none

def flagged? (progress : Progress) (source : List Char) : Option (Progress × List Char) := do
  let letters := source.takeWhile fun char => char != ':' && char != ')'
  guard (areFlags letters)
  let flags := progress.flags.given letters
  match source.drop letters.length with
  | ':' :: rest => return (progress.enter flags, rest)
  | _ :: rest =>
      guard !letters.isEmpty
      return (progress.change flags, rest)
  | [] => none

def group? (progress : Progress) (source : List Char) : Option (Progress × List Char) :=
  match progress.flags.skip source with
  | '?' :: 'P' :: '<' :: rest => progress.named? rest
  | '?' :: '<' :: rest => progress.named? rest
  | '?' :: rest => progress.flagged? rest
  | rest => some (progress.enter progress.flags, rest)

def single? (progress : Progress) (source : List Char) : Option (Progress × List Char) := do
  let (atom, rest) ← atom? progress.flags source
  guard (atom.isMatchable progress.flags)
  let isEdge := match atom with
    | .wordEdge => progress.flags.unicode
    | _ => false
  return ({ progress.add 0 with hasWordEdge := progress.hasWordEdge || isEdge }, rest)

def step? (progress : Progress) (char : Char) (rest : List Char) :
    Option (Progress × List Char) :=
  match char with
  | '(' => progress.group? rest
  | ')' => progress.leave?.map fun progress => (progress, rest)
  | '|' =>
      let alternatives := progress.alternatives.add progress.parts.depth
      some ({ progress with alternatives, parts := {}, repeatable := false }, rest)
  | '[' => (bracket? progress.flags rest).map fun (depth, rest) => (progress.add depth, rest)
  | '\x7b' => none
  | '.' => if progress.flags.unicode then some (progress.add 0, rest) else none
  | '^' => some (progress.add 0, rest)
  | '$' => some (progress.add 0, rest)
  | _ =>
      if char = '*' ∨ char = '+' ∨ char = '?' then
        if progress.repeatable then
          some ({ progress with parts := progress.parts.wrapLast },
            if rest.head? = some '?' then rest.tail else rest)
        else none
      else progress.single? (char :: rest)

/-- Reads to the end of a pattern, in which every group that is open is closed, and nothing nests
too deep. -/
def finish? : Nat → Progress → List Char → Option Progress
  | 0, _, _ => none
  | count + 1, progress, source =>
      match progress.flags.skip source with
      | [] => if progress.outer.isEmpty && progress.depth ≤ deepest then some progress else none
      | char :: rest => do
          let (progress, rest) ← progress.step? char rest
          finish? count progress rest

end Progress

def failure? (source : List Char) : Option Failure :=
  if isNumber source then none
  else
    match Progress.finish? (source.length + 1) {} source with
    | none => some .malformed
    | some progress => if progress.hasWordEdge then some .wordEdge else none

end StreamWindow.Pattern
