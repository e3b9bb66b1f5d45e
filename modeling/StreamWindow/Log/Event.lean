import StreamWindow.Log.Level
import StreamWindow.Text.Quoted

/-! Events of the program, and the lines that a terminal and a log file show of them. -/

namespace StreamWindow

inductive FieldValue
  | text (content : String)
  | count (number : Nat)
  deriving DecidableEq, Repr

def FieldValue.shown : FieldValue → String
  | text content => content
  | count number => toString number

structure Event where
  level : Level
  target : String
  domain : String
  message : String
  fields : List (String × FieldValue) := []
  deriving DecidableEq, Repr

namespace Event

def fieldNames (event : Event) : List String :=
  "message" :: "domain" :: event.fields.map Prod.fst

def paddedLevel (level : Level) : String :=
  String.ofList (List.replicate (5 - level.name.length) ' ') ++ level.name

def shownFields (event : Event) : String :=
  String.join (event.fields.map fun (name, value) => s!" {name}={value.shown}")

def colour : Level → Nat
  | .error => 31
  | .warn => 33
  | .info => 32
  | .debug => 34
  | .trace => 35

def terminalLine (event : Event) (coloured : Bool) : String :=
  let padded := paddedLevel event.level
  let level := if coloured then s!"\x1b[{colour event.level}m{padded}\x1b[0m" else padded
  s!"{level} [{event.domain}] {event.message}{event.shownFields}"

def fileLine (event : Event) (timestamp : String) : String :=
  let domain := s!"domain={Text.quoted event.domain}"
  s!"{timestamp} {paddedLevel event.level} {event.target}: " ++
    s!"{event.message} {domain}{event.shownFields}"

def jsonEscape (char : Char) : List Char :=
  if char = '"' then ['\\', '"']
  else if char = '\\' then ['\\', '\\']
  else if char = '\n' then ['\\', 'n']
  else if char = '\r' then ['\\', 'r']
  else if char = '\t' then ['\\', 't']
  else if char = '\x08' then ['\\', 'b']
  else if char = '\x0c' then ['\\', 'f']
  else if char.toNat < 0x20 then
    ['\\', 'u', '0', '0', Nat.digitChar (char.toNat / 16), Nat.digitChar (char.toNat % 16)]
  else [char]

def jsonText (text : String) : String :=
  String.ofList ('"' :: text.toList.flatMap jsonEscape ++ ['"'])

def jsonField (name : String) (value : FieldValue) : String :=
  let shown := match value with
    | .text content => jsonText content
    | .count number => toString number
  s!"{jsonText name}:{shown}"

def jsonLine (event : Event) (timestamp : String) : String :=
  let fields := ("message", .text event.message) :: ("domain", .text event.domain) ::
    event.fields
  let written := ",".intercalate (fields.map fun (name, value) => jsonField name value)
  let level := jsonField "level" (.text event.level.name)
  let time := jsonField "timestamp" (.text timestamp)
  let target := jsonField "target" (.text event.target)
  s!"\x7b{time},{level},\"fields\":\x7b{written}\x7d,{target}\x7d"

end Event

end StreamWindow
