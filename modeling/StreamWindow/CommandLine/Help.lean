import StreamWindow.CommandLine.Arguments

/-! The help of the program and of its commands. -/

namespace StreamWindow.CommandLine

def Command.purpose : Command → String
  | format => "Print the canonical form of a window clause"
  | check => "Check a window clause and report diagnostics"
  | explain => "Explain a window clause and the descriptor it lowers to"

def helpPurpose : String := "Print this message or the help of the given subcommand(s)"

def lines (texts : List String) : String :=
  String.join (texts.map (· ++ "\n"))

structure Typeface where
  heading : String → String
  literal : String → String

namespace Typeface

def plain : Typeface := ⟨id, id⟩

def terminal : Typeface where
  heading text := s!"\x1b[1m\x1b[4m{text}\x1b[0m"
  literal text := s!"\x1b[1m{text}\x1b[0m"

def commandLine (face : Typeface) (name purpose : String) : String :=
  let gap := String.ofList (List.replicate (9 - name.length) ' ')
  s!"  {face.literal name}{gap}{purpose}"

def optionLine (face : Typeface) (name : OptionName) (value purpose : String) : String :=
  let short := face.literal (String.ofList ['-', name.short])
  let long := face.literal ("--" ++ name.long)
  s!"  {short}, {long}{value}  {purpose}"

def configLine (face : Typeface) : String :=
  face.optionLine .config " <CONFIG>" "Path to swin.toml (defaults to ./swin.toml when present)"

def helpLine (face : Typeface) : String :=
  face.optionLine .help "           " "Print help"

def usageLine (face : Typeface) (program values : String) : String :=
  face.heading "Usage:" ++ s!" {face.literal program} {values}"

end Typeface

def programHelp (face : Typeface) : String := lines <|
  ["Streaming window clause compiler",
    "",
    face.usageLine "swin" "[OPTIONS] <COMMAND>",
    "",
    face.heading "Commands:"] ++
  Command.all.map (fun command => face.commandLine command.name command.purpose) ++
  [face.commandLine "help" helpPurpose,
    "",
    face.heading "Options:",
    face.configLine,
    face.helpLine]

def Command.help (command : Command) (face : Typeface) : String := lines [
  command.purpose,
  "",
  face.usageLine s!"swin {command.name}" "[OPTIONS] [CLAUSE]",
  "",
  face.heading "Arguments:",
  "  [CLAUSE]  Window clause, e.g. \"HOPPING ( SIZE 5 SECONDS , ADVANCE BY 2 SECONDS )\"",
  "",
  face.heading "Options:",
  face.configLine,
  face.optionLine .file " <FILE>    " "Read the clause from a file instead",
  face.helpLine]

def helpHelp (face : Typeface) : String := lines [
  helpPurpose,
  "",
  face.usageLine "swin help" "[COMMAND]...",
  "",
  face.heading "Arguments:",
  "  [COMMAND]...  Print help for the subcommand(s)"]

def Topic.text (topic : Topic) (face : Typeface) : String :=
  match topic with
  | .program => programHelp face
  | .command name => name.help face
  | .help => helpHelp face

end StreamWindow.CommandLine
