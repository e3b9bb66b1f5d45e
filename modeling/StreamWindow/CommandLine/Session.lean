import StreamWindow.CommandLine.Help
import StreamWindow.CommandLine.Report
import StreamWindow.Configuration.Decode
import StreamWindow.Log.Filter

/-! A run of the program: the configuration is read, logging is set up, and then the command is
done. -/

namespace StreamWindow.CommandLine

structure Outcome where
  exitCode : Nat
  output : String := ""
  errors : String := ""
  deriving DecidableEq, Repr

abbrev Environment := String → Option String

def Environment.isSet (environment : Environment) (name : String) : Bool :=
  environment name != none && environment name != some ""

def Environment.typeface (environment : Environment) : Typeface :=
  if environment.isSet "CLICOLOR_FORCE" && !environment.isSet "NO_COLOR" then .terminal
  else .plain

def defaultConfig : String := "swin.toml"

variable {m : Type → Type} [Monad m] [FileHost m]

/-- The configuration, and the directory that paths in it start from. A configuration that is
asked for must exist; the default one need not. -/
def loadConfiguration (config : Option String) : m (Except String (Configuration × String)) := do
  let directory ← FileHost.workingDirectory
  let path ← match config with
    | some path =>
        match ← FileHost.resolve path with
        | .error cause => return .error s!"config path '{path}': {cause.message}"
        | .ok resolved => pure (some resolved)
    | none =>
        let path := Path.join directory defaultConfig
        if ← FileHost.isFile path then pure (some path) else pure none
  match path with
  | none => return .ok ({}, directory)
  | some path =>
      match ← Configuration.load path with
      | .error failure => return .error failure.report
      | .ok configuration =>
          return .ok (configuration, (Path.parent? path).getD directory)

structure Logging where
  format : LogFormat
  filter : LogFilter
  coloured : Bool
  file : Option String := none

inductive LoggingFailure
  | refused (message : String)
  | aborted (message : String)

def refusedFilter (directives : String) (failure : Directive.Failure) : LoggingFailure :=
  match failure with
  | .splitCharacter => .aborted failure.message
  | _ => .refused s!"invalid log filter '{directives}': {failure.message}"

/-- The filter that the environment gives, or else the configured one, with complaints about
what had to be ignored. -/
def buildFilter (options : LoggingOptions) (environment : Environment) :
    Except LoggingFailure (LogFilter × List String) :=
  match environment "RUST_LOG" with
  | some text => (LogFilter.readLeniently text).mapError (refusedFilter text)
  | none =>
      let directives := options.directives
      ((LogFilter.read directives).map fun filter => (filter, [])).mapError
        (refusedFilter directives)

def openLog (directory file : String) : m (Except LoggingFailure String) := do
  let path := Path.join directory file
  let parent := (Path.parent? path).getD directory
  match ← FileHost.createDirectories parent with
  | .error cause => return .error (.refused cause.message)
  | .ok () =>
      match Path.fileName? path with
      | none => return .error (.refused s!"log file path has no file name: {path}")
      | some name =>
          let target := Path.join parent name
          if ← FileHost.openFile target then return .ok target
          else return .error (.aborted "initializing rolling file appender failed")

/-- Sets logging up. Complaints come once for each place that events go to. -/
def startLogging (options : LoggingOptions) (directory : String) (environment : Environment) :
    m (Except LoggingFailure Logging × List String) := do
  match buildFilter options environment with
  | .error failure => return (.error failure, [])
  | .ok (filter, complaints) =>
      let coloured := !environment.isSet "NO_COLOR"
      let logging : Logging := { format := options.format, filter, coloured }
      match options.file with
      | none => return (.ok logging, complaints)
      | some file =>
          match ← openLog directory file with
          | .error failure => return (.error failure, complaints)
          | .ok path => return (.ok { logging with file := some path }, complaints ++ complaints)

namespace Logging

def terminalLine (logging : Logging) (event : Event) (timestamp : String) : String :=
  match logging.format with
  | .plain => event.terminalLine logging.coloured
  | .json => event.jsonLine timestamp

def fileLine (logging : Logging) (event : Event) (timestamp : String) : String :=
  match logging.format with
  | .plain => event.fileLine timestamp
  | .json => event.jsonLine timestamp

def emit (logging : Logging) (events : List Event) : m (List String) := do
  let passed := events.filter logging.filter.enabled
  let timestamp ← FileHost.timestamp
  if let some path := logging.file then
    FileHost.append path (lines (passed.map (logging.fileLine · timestamp)))
  return passed.map (logging.terminalLine · timestamp)

end Logging

def loadedEvent (directory : String) : Event where
  level := .debug
  target := "swin"
  domain := "conf"
  message := "configuration loaded"
  fields := [("base_dir", .text directory)]

def ClauseSource.text : ClauseSource → m (Except String String)
  | argument clause => return .ok clause
  | file path => do
      match ← FileHost.readText path with
      | .ok text => return .ok text
      | .error cause => return .error s!"failed to read {path}: {cause.message}"

def failure (message : String) (before : List String := []) : Outcome where
  exitCode := 1
  errors := lines (before ++ [s!"Error: {message}"])

def invoke (invocation : Invocation) (environment : Environment) : m Outcome := do
  match ← loadConfiguration invocation.config with
  | .error message => return failure message
  | .ok (configuration, directory) =>
      match ← startLogging configuration.logging directory environment with
      | (.error (.refused message), complaints) => return failure message complaints
      | (.error (.aborted message), complaints) =>
          return { exitCode := 101, errors := lines (complaints ++ [message]) }
      | (.ok logging, complaints) =>
          let report := match ← invocation.source.text with
            | .error message => failed message
            | .ok text => invocation.command.report text configuration.check
          let shown ← logging.emit (loadedEvent directory :: report.events)
          return {
            exitCode := if report.success then 0 else 1
            output := report.output
            errors := lines (complaints ++ shown ++ report.errors) }

def run (arguments : List String) (environment : Environment) : m Outcome :=
  match readArguments (.ok none) arguments with
  | .error usage => return { exitCode := 2, errors := s!"{usage.message}\n" }
  | .ok (.help topic) =>
      return { exitCode := 0, output := topic.text environment.typeface }
  | .ok (.invoke invocation) => invoke invocation environment

end StreamWindow.CommandLine
