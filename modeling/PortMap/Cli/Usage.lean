import PortMap.Cli.Words
import PortMap.Settings.Issue
import PortMap.Text.Quoted
import PortMap.Text.Terminal
import PortMap.Wire.Request

/-!
# How the program is used

The commands of the program, the options that stand before a command, and the options and arguments of
each command; the help text of the program and of its commands; and what a user is told who uses them in
a wrong way.
-/

namespace PortMap.Cli

/-! ### Commands, options and arguments -/

/-- The name of the program. -/
def programName : String := "natpmpc"

/-- A command. -/
inductive Command where
  /-- Shows the public address. -/
  | address
  /-- Shows the default gateway. -/
  | gateway
  /-- Creates or renews a mapping. -/
  | map
  /-- Deletes a mapping. -/
  | unmap
  deriving DecidableEq, Repr

/-- An option that stands before a command. -/
inductive GeneralOption where
  /-- The file with settings. -/
  | config
  /-- The gateway. -/
  | gateway
  /-- The longest time of a receive. -/
  | timeout
  /-- How often a receive is attempted. -/
  | attempts
  /-- Whether there are delays between failed receives. -/
  | backoff
  /-- How much is written to the log. -/
  | verbose
  /-- Shows the help text. -/
  | help
  deriving DecidableEq, Repr

/-- An option of a command. -/
inductive CommandOption where
  /-- The lifetime of a mapping. -/
  | lifetime
  /-- Shows the help text. -/
  | help
  deriving DecidableEq, Repr

/-- An argument of a command. -/
inductive Argument where
  /-- The transport protocol. -/
  | protocol
  /-- The port of the client. -/
  | privatePort
  /-- The port of the gateway. -/
  | publicPort
  deriving DecidableEq, Repr

/-- All commands, in the order of their names. -/
def Command.all : List Command := [.address, .gateway, .map, .unmap]

/-- The name of a command. -/
def Command.name : Command → String
  | .address => "address"
  | .gateway => "gateway"
  | .map => "map"
  | .unmap => "unmap"

/-- What a command does. -/
def Command.description : Command → String
  | .address => "Query the gateway's public IPv4 address."
  | .gateway => "Show the default gateway."
  | .map => "Create or renew a port mapping."
  | .unmap => "Delete a port mapping."

/-- The arguments of a command. -/
def Command.arguments : Command → List Argument
  | .address | .gateway => []
  | .map => [.protocol, .privatePort, .publicPort]
  | .unmap => [.protocol, .privatePort]

/-- How an argument is shown. -/
def Argument.shown : Argument → String
  | .protocol => "\x7budp|tcp\x7d"
  | .privatePort => "PRIVATE_PORT"
  | .publicPort => "[PUBLIC_PORT]"

/-- The spellings of the options that stand before a command. -/
def generalSpellings : List (Spelling GeneralOption) := [
  ⟨"--config".toList, .config, .takesValue⟩, ⟨"-c".toList, .config, .takesValue⟩,
  ⟨"--gateway".toList, .gateway, .takesValue⟩, ⟨"-g".toList, .gateway, .takesValue⟩,
  ⟨"--timeout".toList, .timeout, .takesValue⟩, ⟨"-t".toList, .timeout, .takesValue⟩,
  ⟨"--attempts".toList, .attempts, .takesValue⟩, ⟨"-a".toList, .attempts, .takesValue⟩,
  ⟨"--backoff".toList, .backoff, .switches true⟩, ⟨"--no-backoff".toList, .backoff, .switches false⟩,
  ⟨"--verbose".toList, .verbose, .switches true⟩, ⟨"-v".toList, .verbose, .switches true⟩,
  ⟨"--help".toList, .help, .switches true⟩]

/-- The spellings of the options of a command. -/
def Command.spellings : Command → List (Spelling CommandOption)
  | .map => [
    ⟨"--lifetime".toList, .lifetime, .takesValue⟩, ⟨"-l".toList, .lifetime, .takesValue⟩,
    ⟨"--help".toList, .help, .switches true⟩]
  | _ => [⟨"--help".toList, .help, .switches true⟩]

/-- The spellings of an option as they are shown in messages. -/
def shownSpellings {α : Type} [BEq α] (spellings : List (Spelling α)) (o : α) : String :=
  Value.joined " / "
    ((spellings.filter fun s => s.option == o).map fun s => "'" ++ String.ofList s.word ++ "'")

/-! ### Help -/

/-- The usage line, of the program or of a command. -/
def usageLine : Option Command → String
  | none => "Usage: " ++ programName ++ " [OPTIONS] COMMAND [ARGS]..."
  | some c =>
    "Usage: " ++ programName ++ " " ++ c.name ++ " [OPTIONS]"
      ++ String.join (c.arguments.map fun a => " " ++ a.shown)

/-- Rows of two columns; the second one begins two blanks after the longest text of the first. -/
def columns (rows : List (String × String)) : String :=
  let width := (rows.map fun r => r.1.length).foldl Nat.max 0
  String.join (rows.map fun r =>
    "  " ++ r.1 ++ String.ofList (List.replicate (width - r.1.length + 2) ' ') ++ r.2 ++ "\n")

/-- The row of the option that shows the help text. -/
def helpRow : String × String := ("--help", "Show this message and exit.")

/-- The rows of the options that stand before a command. -/
def generalRows : List (String × String) := [
  ("-c, --config FILE", "Configuration file (TOML)"),
  ("-g, --gateway TEXT", "Gateway IPv4 address (default: default route)"),
  ("-t, --timeout FLOAT", "Per-receive timeout in seconds"),
  ("-a, --attempts INTEGER RANGE", "Receive attempts  [1<=x<=64]"),
  ("--backoff / --no-backoff", "Exponential backoff between failed receives"),
  ("-v, --verbose", "Increase verbosity (-v, -vv)"),
  helpRow]

/-- The rows of the options of a command. -/
def Command.rows : Command → List (String × String)
  | .map => [("-l, --lifetime INTEGER RANGE", "Lifetime in seconds  [0<=x<=4294967295]"), helpRow]
  | _ => [helpRow]

/-- The help text, of the program or of a command. -/
def helpText : Option Command → String
  | none =>
    usageLine none ++ "\n\n  NAT-PMP (RFC 6886) client.\n\nOptions:\n" ++ columns generalRows
      ++ "\nCommands:\n" ++ columns (Command.all.map fun c => (c.name, c.description))
  | some c =>
    usageLine (some c) ++ "\n\n  " ++ c.description ++ "\n\nOptions:\n" ++ columns c.rows

/-! ### Wrong use -/

/-- Why a value of an option or argument is refused. -/
inductive BadValue where
  /-- It is no whole number. -/
  | notWhole (text : String)
  /-- It is outside of its limits. -/
  | outside (n : Int) (low high : Nat)
  /-- It is no real number. -/
  | notReal (text : String)
  /-- It is no protocol. -/
  | notProtocol (text : String)
  /-- It is a directory. -/
  | directory (path : String)
  /-- It is a file that may not be read. -/
  | notReadable (path : String)
  /-- It is a path with the character that ends names. -/
  | badName
  deriving DecidableEq, Repr

/-- What is told of a value that is refused. -/
def BadValue.message : BadValue → String
  | .notWhole text => Text.quoted text ++ " is not a valid integer range."
  | .outside n low high =>
    toString n ++ " is not in the range " ++ toString low ++ "<=x<=" ++ toString high ++ "."
  | .notReal text => Text.quoted text ++ " is not a valid float."
  | .notProtocol text => Text.quoted text ++ " is not one of 'udp', 'tcp'."
  | .directory path => "File " ++ Text.quoted path ++ " is a directory."
  | .notReadable path => "File " ++ Text.quoted path ++ " is not readable."
  | .badName => "embedded null byte"

/-- In what way the program is used wrongly. -/
inductive Misuse where
  /-- The words are no options. -/
  | words (cause : Words.Fault)
  /-- There is no such command. -/
  | noSuchCommand (name : String)
  /-- There is no command. -/
  | missingCommand
  /-- An argument is missing. -/
  | missingArgument (a : Argument)
  /-- There are too many arguments. -/
  | extraArguments (extra : List String)
  /-- A value is refused; it is named as in the help text. -/
  | badValue (named : String) (cause : BadValue)
  /-- The values of the options do not go with the settings. -/
  | badSettings (report : String)
  deriving DecidableEq, Repr

/-- The question whether one of the words was meant. -/
def question : List String → String
  | [] => ""
  | [word] => " Did you mean " ++ Text.quoted word ++ "?"
  | several =>
    " (Did you mean one of: " ++ Value.joined ", " (several.map Text.quoted) ++ "?)"

/-- What is told of a wrong use. -/
def Misuse.message : Misuse → String
  | .words (.noSuchOption word near) => "No such option " ++ Text.quoted word ++ "." ++ question near
  | .words (.needsArgument word) => "Option " ++ Text.quoted word ++ " requires an argument."
  | .words (.takesNoValue word) => "Option " ++ Text.quoted word ++ " does not take a value."
  | .noSuchCommand name =>
    "No such command " ++ Text.quoted name ++ "."
      ++ question (Text.closest (Command.all.map Command.name) name)
  | .missingCommand => "Missing command."
  | .missingArgument .protocol =>
    "Missing argument '" ++ Argument.protocol.shown ++ "'. Choose from:\n\tudp,\n\ttcp"
  | .missingArgument a => "Missing argument '" ++ a.shown ++ "'."
  | .extraArguments extra =>
    "Got unexpected extra argument" ++ (if extra.length = 1 then "" else "s") ++ " ("
      ++ Value.joined " " extra ++ ")"
  | .badValue named cause => "Invalid value for " ++ named ++ ": " ++ cause.message
  | .badSettings report => "Invalid value: " ++ report

/-- Whether the usage line is shown with a wrong use. -/
def Misuse.showsUsage : Misuse → Bool
  | .words (.needsArgument _) | .words (.takesNoValue _) => false
  | _ => true

/-- What the user sees of a wrong use, of the program or of a command. -/
def Misuse.screen (m : Misuse) (where_ : Option Command) : String :=
  let path := programName ++ ((where_.map fun c => " " ++ c.name).getD "")
  (if m.showsUsage then
      usageLine where_ ++ "\nTry '" ++ path ++ " --help' for help.\n\n"
    else "")
    ++ "Error: " ++ Text.withoutControls m.message ++ "\n"

end PortMap.Cli
