import StreamWindow.Log.Event
import StreamWindow.Log.Pattern
import StreamWindow.Text.Measure

/-! Log filters. A filter is a list of directives separated by commas; each lets events of a
target pass up to a level. Of the directives that care about an event the most specific one
decides. -/

namespace StreamWindow

structure FieldPattern where
  name : String
  hasValue : Bool
  deriving DecidableEq, Repr

structure Directive where
  target : Option String := none
  span : Option String := none
  field : Option FieldPattern := none
  level : Option Level := some .trace
  deriving DecidableEq, Repr

namespace Directive

inductive Failure
  | malformed
  | unknownLevel
  | invalidField (cause : Pattern.Failure)
  | splitCharacter
  deriving DecidableEq, Repr

def Failure.message : Failure → String
  | malformed => "invalid filter directive"
  | unknownLevel =>
      "error parsing level filter: expected one of \"off\", \"error\", \"warn\", " ++
        "\"info\", \"debug\", \"trace\", or a number 0-5"
  | invalidField cause => s!"invalid field filter: {cause.message}"
  | splitCharacter => "a part of the directive ends inside a character"

def levels : List (String × Option Level) :=
  [("off", none), ("error", some .error), ("warn", some .warn), ("info", some .info),
    ("debug", some .debug), ("trace", some .trace)]

def numberedLevel? (chars : List Char) : Option (Option Level) :=
  let digits := if chars.head? = some '+' then chars.tail else chars
  if digits.isEmpty || !digits.all Char.isDigit then none
  else (levels[Nat.ofDigitChars 10 digits 0]?).map Prod.snd

def level? (chars : List Char) : Option (Option Level) :=
  (numberedLevel? chars).or
    ((levels.find? fun entry => entry.1.toList == chars.map Char.toLower).map Prod.snd)

def part (text : List Char) (start stop : Nat) : Except Failure (List Char) :=
  match Text.byteSlice? start stop text with
  | some chars => .ok chars
  | none => .error .splitCharacter

def readLevel (text : List Char) (start : Nat) : Except Failure (Option Level) := do
  let chars ← part text start (Text.byteLength text)
  if chars.isEmpty then return some .trace
  else
    match level? chars with
    | some level => return level
    | none => .error .unknownLevel

def ofWord (word : List Char) : Directive :=
  match level? word with
  | some level => { level }
  | none => { target := some (String.ofList word) }

def readField (chars : List Char) : Except Failure FieldPattern :=
  let name := chars.takeWhile (· != '=')
  let value := (chars.drop (name.length + 1)).takeWhile (· != '=')
  if chars.isEmpty then .error .malformed
  else
    match Pattern.failure? value with
    | some cause => .error (.invalidField cause)
    | none => .ok ⟨String.ofList name, name.length < chars.length⟩

def readScope (text : List Char) (start : Nat) (source : List Char) :
    Except Failure (Option String × Option FieldPattern × List Char) := do
  let name := source.takeWhile fun char => char != ']' && char != '\x7b'
  let stop := start + Text.byteLength name
  match source.drop name.length with
  | ']' :: rest => return (some (String.ofList (← part text start stop)), none, rest)
  | '\x7b' :: rest =>
      let span ← part text start stop
      let field := rest.takeWhile (· != '\x7d')
      match rest.drop field.length with
      | '\x7d' :: rest =>
          let field ← part text (stop + 1) (stop + 1 + Text.byteLength field)
          let field ← readField field
          let span := if span.isEmpty then none else some (String.ofList span)
          match rest with
          | ']' :: rest => return (span, some field, rest)
          | _ => .error .malformed
      | _ => .error .malformed
  | _ => .error .malformed

def mayStart (char : Char) : Bool :=
  char == '-' || char == ':' || char == '_' || char == '[' || Text.isAlphanumeric char

/-- Reads a directive. Blanks around it do not count when its parts are told apart, but the
places that are found then, in bytes, are places in the whole text. -/
def read (text : List Char) : Except Failure Directive :=
  let source := Text.trim text
  let name := source.takeWhile fun char => char != '=' && char != '['
  let stop := Text.byteLength name
  if !source.head?.any mayStart then .error .malformed
  else
    match source.drop name.length with
    | [] => .ok (ofWord text)
    | '=' :: _ => do
        let target := String.ofList (← part text 0 stop)
        return { target := some target, level := ← readLevel text (stop + 1) }
    | _ :: rest => do
        let named ← part text 0 stop
        let target := if name.isEmpty then none else some (String.ofList named)
        let (span, field, rest) ← readScope text (stop + 1) rest
        match rest with
        | [] => return { target, span, field }
        | '=' :: rest =>
            let start := Text.byteLength source - Text.byteLength rest
            return { target, span, field, level := ← readLevel text start }
        | _ => .error .malformed

/-- Whether the directive can decide about events. One that asks for a span or for the value of
a field looks at what surrounds an event instead. -/
def isStatic (directive : Directive) : Bool :=
  directive.span.isNone && !directive.field.any FieldPattern.hasValue

def caresAbout (directive : Directive) (event : Event) : Bool :=
  directive.target.all (fun target => target.toList.isPrefixOf event.target.toList) &&
    directive.field.all fun field => event.fieldNames.contains field.name

def targetSize (directive : Directive) : Nat :=
  (directive.target.map fun target => target.utf8ByteSize + 1).getD 0

/-- Whether a directive comes before an earlier one: it has the longer target, or else it asks
for a field that is the last by name. -/
def outranks (directive earlier : Directive) : Bool :=
  if directive.targetSize = earlier.targetSize then
    match directive.field, earlier.field with
    | _, none => true
    | none, some _ => false
    | some field, some other => other.name ≤ field.name
  else earlier.targetSize < directive.targetSize

def passes (directive : Directive) (level : Level) : Bool :=
  directive.level.any fun limit => level.verbosity ≤ limit.verbosity

end Directive

abbrev LogFilter := List Directive

namespace LogFilter

def ofDirectives (directives : List Directive) : LogFilter :=
  if directives.isEmpty then [{ level := some .error }] else directives

def parts (text : String) : List (List Char) :=
  ((text.splitOn ",").filter (· != "")).map String.toList

def read (text : String) : Except Directive.Failure LogFilter :=
  ofDirectives <$> (parts text).mapM Directive.read

def consider : List Directive × List String → List Char →
    Except Directive.Failure (List Directive × List String)
  | (directives, complaints), part =>
      match Directive.read part with
      | .ok directive => .ok (directives ++ [directive], complaints)
      | .error .splitCharacter => .error .splitCharacter
      | .error failure =>
          let complaint := s!"ignoring `{String.ofList part}`: {failure.message}"
          .ok (directives, complaints ++ [complaint])

/-- Reads a filter without its malformed directives, which are returned as complaints. Only parts
that would split a character cannot be ignored. -/
def readLeniently (text : String) : Except Directive.Failure (LogFilter × List String) := do
  let (directives, complaints) ← (parts text).foldlM consider ([], [])
  return (ofDirectives directives, complaints)

def decisive? (filter : LogFilter) (event : Event) : Option Directive :=
  let caring := filter.filter fun directive => directive.isStatic && directive.caresAbout event
  caring.foldl (fun best directive =>
    match best with
    | none => some directive
    | some found => if directive.outranks found then some directive else best) none

def enabled (filter : LogFilter) (event : Event) : Bool :=
  (filter.decisive? event).any (·.passes event.level)

end LogFilter

end StreamWindow
