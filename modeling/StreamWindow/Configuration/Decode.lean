import StreamWindow.Configuration
import StreamWindow.Files
import StreamWindow.HumanDuration
import StreamWindow.Toml.Document
import StreamWindow.Toml.Portable

/-! Reading a configuration from a document. Sections and settings may be left out, and unknown
settings in a known section are ignored. -/

namespace StreamWindow

inductive Misfit
  | wrongType (found : Data) (expected : String)
  | overflow (kind : NumberKind)
  | unknownSection (name : String)
  | unknownFormat (name : String)
  | noFormat
  | manyFormats (count : Nat)
  | notEmpty (found : Data)
  | duration (failure : HumanDuration.Failure)

def Misfit.message : Misfit → String
  | wrongType found expected => s!"invalid type: {found.description}, expected {expected}"
  | overflow .integer => "integer number overflowed"
  | overflow .float => "floating-point number overflowed"
  | unknownSection name => s!"unknown field `{name}`, expected `logging` or `check`"
  | unknownFormat name => s!"unknown variant `{name}`, expected `plain` or `json`"
  | noFormat => "wanted string or table"
  | manyFormats 0 => "wanted exactly 1 element, found 0 elements"
  | manyFormats _ => "wanted exactly 1 element, more than 1 element"
  | notEmpty (.sequence _) => "expected empty array"
  | notEmpty (.map _) => "expected empty table"
  | notEmpty found => s!"expected table, found {found.typeName}"
  | duration failure => failure.message

structure DecodingError where
  cause : Misfit
  place : Data.Place := {}

def DecodingError.message (error : DecodingError) : String :=
  error.cause.message

def Data.Step.before {α : Type} (step : Data.Step) (outcome : Except DecodingError α) :
    Except DecodingError α :=
  outcome.mapError fun error =>
    { error with place := { error.place with path := step :: error.place.path } }

namespace Data

def refuse {α : Type} (cause : Misfit) : Except DecodingError α :=
  .error { cause }

def mismatch {α : Type} (expected : String) : Data → Except DecodingError α
  | oversized kind => refuse (.overflow kind)
  | found => refuse (.wrongType found expected)

def asText (expected : String) : Data → Except DecodingError String
  | text content => .ok content
  | found => found.mismatch expected

def asFlag : Data → Except DecodingError Bool
  | boolean flag => .ok flag
  | found => found.mismatch "a boolean"

def asDuration (data : Data) : Except DecodingError Span := do
  let text ← data.asText "a string"
  match HumanDuration.read text with
  | .ok span => .ok span
  | .error failure => refuse (.duration failure)

def ofSpan (span : Span) : Data :=
  text (HumanDuration.text span)

def asTextMap (data : Data) : Except DecodingError (List (String × String)) :=
  match data.entries? with
  | some entries => entries.mapM fun (name, value) =>
      (Step.entry name).before do return (name, ← value.asText "a string")
  | none => data.mismatch "a map"

mutual

/-- A value that is ignored need not be anything, but its numbers are looked at. -/
def skip : Data → Except DecodingError Unit
  | oversized kind => refuse (.overflow kind)
  | sequence items => skipItems 0 items
  | map entries => skipEntries entries
  | _ => .ok ()

def skipItems (index : Nat) : List Data → Except DecodingError Unit
  | [] => .ok ()
  | item :: items => do
      (Step.item index).before item.skip
      skipItems (index + 1) items

def skipEntries : List (String × Data) → Except DecodingError Unit
  | [] => .ok ()
  | (name, data) :: entries => do
      (Step.entry name).before data.skip
      skipEntries entries

end

/-- The settings of a section with their names. In a sequence they stand in order, and what
comes after them is not looked at. -/
def settings? (names : List String) : Data → Option (List (Step × String × Data))
  | sequence items =>
      some ((names.zip items).zipIdx.map fun (setting, index) => (.item index, setting))
  | data => data.entries?.map fun entries => entries.map fun entry => (.entry entry.1, entry)

def asSection {α : Type} (kind : String) (names : List String) (default : α)
    (change : α → String → Data → Except DecodingError α) (data : Data) :
    Except DecodingError α :=
  match data.settings? names with
  | some settings => settings.foldlM (fun known (step, name, value) =>
      step.before (change known name value)) default
  | none => data.mismatch s!"struct {kind}"

def requireEmpty : Data → Except DecodingError Unit
  | sequence [] => .ok ()
  | map [] => .ok ()
  | found => refuse (.notEmpty found)

end Data

def LogFormat.ofName (name : String) : Except DecodingError LogFormat :=
  if name = "plain" then .ok .plain
  else if name = "json" then .ok .json
  else Data.refuse (.unknownFormat name)

def LogFormat.decode : Data → Except DecodingError LogFormat
  | .text name => ofName name
  | .map [(name, content)] =>
      (Data.Step.entry name).before do
        let format ← (ofName name).mapError fun error => { error with place.atKey := true }
        content.requireEmpty
        return format
  | .map entries => Data.refuse (.manyFormats entries.length)
  | _ => Data.refuse .noFormat

def LoggingOptions.withSetting (logging : LoggingOptions) (name : String) (data : Data) :
    Except DecodingError LoggingOptions :=
  match name with
  | "level" => return { logging with level := ← data.asText "a string" }
  | "modules" => return { logging with modules := ← data.asTextMap }
  | "file" => return { logging with file := ← data.asText "path string" }
  | "format" => return { logging with format := ← LogFormat.decode data }
  | _ => do
      data.skip
      return logging

def LoggingOptions.decode : Data → Except DecodingError LoggingOptions :=
  Data.asSection "LoggingConfig" ["level", "modules", "file", "format"] {} withSetting

def CheckOptions.withSetting (check : CheckOptions) (name : String) (data : Data) :
    Except DecodingError CheckOptions :=
  match name with
  | "max_window_size" => return { check with cap := ← data.asDuration }
  | "deny_warnings" => return { check with denyWarnings := ← data.asFlag }
  | _ => do
      data.skip
      return check

def CheckOptions.decode : Data → Except DecodingError CheckOptions :=
  Data.asSection "CheckConfig" ["max_window_size", "deny_warnings"] {} withSetting

namespace Configuration

def withSection (configuration : Configuration) (name : String) (data : Data) :
    Except DecodingError Configuration :=
  match name with
  | "logging" => return { configuration with logging := ← LoggingOptions.decode data }
  | "check" => return { configuration with check := ← CheckOptions.decode data }
  | _ => .error { cause := .unknownSection name, place.atKey := true }

def decode (sections : List (String × Data)) : Except DecodingError Configuration :=
  sections.foldlM (fun configuration (name, data) =>
    (Data.Step.entry name).before (configuration.withSection name data)) {}

inductive Failure
  | unreadable (path : String) (cause : FileError)
  | notADocument
  /-- The error, an excerpt of the document that shows where it is, and whether every reader of
  documents would come as far as to find it. -/
  | undecodable (error : DecodingError) (excerpt : String) (portable : Bool)
  | zeroCap

def Failure.message : Failure → String
  | unreadable path cause => s!"failed to read {path}: {cause.message}"
  | notADocument => "TOML parse error"
  | undecodable error _ _ => error.message
  | zeroCap => "check.max_window_size must be greater than zero"

def Failure.report : Failure → String
  | undecodable error excerpt _ => s!"{excerpt}{error.message}\n"
  | failure => failure.message

def read (text : String) : Except Failure Configuration :=
  match Toml.document? text with
  | none => .error .notADocument
  | some document =>
      match decode document.data with
      | .error error =>
          let portable := Data.entriesPortable document.data
          .error (.undecodable error (document.excerpt error.place) portable)
      | .ok configuration =>
          if configuration.isValid then .ok configuration else .error .zeroCap

def load {m : Type → Type} [Monad m] [FileHost m] (path : String) :
    m (Except Failure Configuration) := do
  match ← FileHost.readText path with
  | .error cause => return .error (.unreadable path cause)
  | .ok text => return read text

end Configuration

end StreamWindow
