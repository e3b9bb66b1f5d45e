/-! Command line arguments: a command, a clause or the file that holds one, and options. Options
end at `--`, and a value that starts with a dash must be joined to its option. -/

namespace StreamWindow.CommandLine

inductive Command
  | format | check | explain
  deriving DecidableEq, Repr

def Command.all : List Command := [.format, .check, .explain]

def Command.name : Command → String
  | format => "fmt"
  | check => "check"
  | explain => "explain"

def Command.ofName? (name : String) : Option Command :=
  Command.all.find? (·.name == name)

inductive ClauseSource
  | argument (clause : String)
  | file (path : String)
  deriving DecidableEq, Repr

structure Invocation where
  command : Command
  source : ClauseSource
  config : Option String := none
  deriving DecidableEq, Repr

inductive Topic
  | program
  | command (command : Command)
  | help
  deriving DecidableEq, Repr

def Topic.ofName? (name : String) : Option Topic :=
  if name = "help" then some .help else (Command.ofName? name).map .command

inductive Request
  | invoke (invocation : Invocation)
  | help (topic : Topic)
  deriving DecidableEq, Repr

inductive UsageError
  | noCommand
  | unknownCommand (name : String)
  | unknownOption (text : String)
  | missingValue (option : String)
  | repeatedOption (option : String)
  | unexpectedArgument (text : String)
  | noClause
  | clauseAndFile
  deriving DecidableEq, Repr

def UsageError.message : UsageError → String
  | noCommand => "error: a command is required: fmt, check or explain"
  | unknownCommand name => s!"error: unrecognized command '{name}'"
  | unknownOption text => s!"error: unexpected option '{text}'"
  | missingValue option => s!"error: a value is required for '{option}'"
  | repeatedOption option => s!"error: '{option}' cannot be used multiple times"
  | unexpectedArgument text => s!"error: unexpected argument '{text}'"
  | noClause => "error: a window clause is required"
  | clauseAndFile => "error: a window clause cannot be used with '--file'"

inductive OptionName
  | config | file | help
  deriving DecidableEq, Repr

namespace OptionName

def long : OptionName → String
  | config => "config"
  | file => "file"
  | help => "help"

def short : OptionName → Char
  | config => 'c'
  | file => 'f'
  | help => 'h'

end OptionName

inductive Shape
  | option (name : OptionName) (joined : Option String)
  | unknown
  | separator
  | plain
  deriving DecidableEq, Repr

/-- A value is joined to a long option by an equals sign, and to a short one by being next to
it, where an equals sign may stand between. -/
def shape (allowed : List OptionName) (argument : String) : Shape :=
  match argument.toList with
  | ['-', '-'] => .separator
  | '-' :: '-' :: rest =>
      let name := rest.takeWhile (· != '=')
      match allowed.find? (·.long.toList == name), rest.dropWhile (· != '=') with
      | some option, [] => .option option none
      | some .help, _ => .unknown
      | some option, _ :: value => .option option (some (String.ofList value))
      | none, _ => .unknown
  | '-' :: letter :: rest =>
      match allowed.find? (·.short == letter), rest with
      | some .help, _ => .option .help none
      | some option, [] => .option option none
      | some option, '=' :: value => .option option (some (String.ofList value))
      | some option, value => .option option (some (String.ofList value))
      | none, _ => .unknown
  | _ => .plain

def value? (joined : Option String) (arguments : List String) : Option (String × List String) :=
  match joined, arguments with
  | some value, rest => some (value, rest)
  | none, value :: rest =>
      if value.toList.head? = some '-' ∧ value ≠ "-" then none else some (value, rest)
  | none, [] => none

def OptionName.set (option : OptionName) (before : Option String) (value : String) :
    Except UsageError (Option String) :=
  if value = "" then .error (.missingValue option.long)
  else if before.isSome then .error (.repeatedOption ("--" ++ option.long))
  else .ok (some value)

structure Given where
  config : Option String := none
  file : Option String := none
  clause : Option String := none

namespace Given

def withClause (given : Given) (clause : String) : Except UsageError Given :=
  if given.clause.isNone then .ok { given with clause }
  else .error (.unexpectedArgument clause)

def withOption (given : Given) (option : OptionName) (value : String) :
    Except UsageError Given :=
  match option with
  | .config => return { given with config := ← option.set given.config value }
  | .file => return { given with file := ← option.set given.file value }
  | .help => return given

def source (given : Given) : Except UsageError ClauseSource :=
  match given.clause, given.file with
  | some clause, none => .ok (.argument clause)
  | none, some path => .ok (.file path)
  | some _, some _ => .error .clauseAndFile
  | none, none => .error .noClause

end Given

theorem value?_length_le {joined : Option String} {arguments rest : List String} {value : String}
    (found : value? joined arguments = some (value, rest)) : rest.length ≤ arguments.length := by
  unfold value? at found
  split at found
  · cases found
    exact Nat.le_refl _
  · split at found
    · contradiction
    · cases found
      exact Nat.le_succ _
  · contradiction

def readGiven (given : Given) : List String → Except UsageError (Option Given)
  | [] => .ok (some given)
  | argument :: arguments =>
      match shape [.config, .file, .help] argument with
      | .unknown => .error (.unknownOption argument)
      | .separator => some <$> arguments.foldlM Given.withClause given
      | .plain => do readGiven (← given.withClause argument) arguments
      | .option .help _ => .ok none
      | .option option joined =>
          match found : value? joined arguments with
          | none => .error (.missingValue option.long)
          | some (value, rest) => do
              have := value?_length_le found
              readGiven (← given.withOption option value) rest
  termination_by arguments => arguments.length

def readTopics : List String → Except UsageError Topic
  | [] => .ok .program
  | [name] =>
      match Topic.ofName? name with
      | some topic => .ok topic
      | none => .error (.unknownCommand name)
  | _ :: name :: _ => .error (.unknownCommand name)

/-- Reads a command with its arguments. The configuration matters only where something is to be
done, and what is given after the command overrides it. -/
def readCommand (name : String) (config : Except UsageError (Option String))
    (arguments : List String) : Except UsageError Request := do
  if name = "help" then return .help (← readTopics arguments)
  else
    match Command.ofName? name with
    | none => .error (.unknownCommand name)
    | some command =>
        match ← readGiven {} arguments with
        | none => return .help (.command command)
        | some given =>
            let source ← given.source
            return .invoke ⟨command, source, given.config.or (← config)⟩

/-- Reads options up to the command. What is wrong with the last value, unless it is joined to its
option, is told only after the command has been read. -/
def readArguments (config : Except UsageError (Option String)) :
    List String → Except UsageError Request
  | [] => .error .noCommand
  | argument :: arguments =>
      match shape [.config, .help] argument with
      | .unknown => .error (.unknownOption argument)
      | .separator => .error .noCommand
      | .plain => readCommand argument config arguments
      | .option .config joined => do
          let before ← config
          match found : value? joined arguments with
          | none => .error (.missingValue "config")
          | some (value, rest) => do
              have := value?_length_le found
              let config := OptionName.config.set before value
              if joined.isSome then readArguments (.ok (← config)) rest
              else readArguments config rest
      | .option _ _ => do
          let _ ← config
          return .help .program
  termination_by arguments => arguments.length

end StreamWindow.CommandLine
