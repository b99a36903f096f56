import PortMap.Cli.Usage
import PortMap.Disk.Making
import PortMap.Numeral.Integer

/-!
# What a user asks for

The words of a command line as values: the options that stand before the command (`Options`), and the
command with its own options and arguments (`Order`).

Values are checked in the order in which the options are given, then the arguments; the first that is
refused is told. A user who asks for help is given it before any value is checked.
-/

namespace PortMap.Cli

open Wire

/-- What is asked for: help, or something else. -/
inductive Demand (α : Type) where
  /-- The help text. -/
  | help
  /-- Something else. -/
  | proceed (a : α)

/-! ### Values -/

/-- Reads a whole number within limits. -/
def readWithin (low high : Nat) (s : String) : Except BadValue Int :=
  match readInt? s.toList with
  | none => .error (.notWhole s)
  | some n => if n < low ∨ high < n then .error (.outside n low high) else .ok n

/-- Reads a port. -/
def readPort (s : String) : Except BadValue Int := readWithin 0 (2 ^ 16 - 1) s

/-- Reads a lifetime. -/
def readLifetime (s : String) : Except BadValue Int := readWithin 0 (2 ^ 32 - 1) s

/-- Reads a real number. -/
def readSeconds (s : String) : Except BadValue Binary64 :=
  match readFloat? s.toList with
  | none => .error (.notReal s)
  | some x => .ok x

/-- Reads the name of a protocol, in any case of letters. -/
def readProtocol (s : String) : Except BadValue Protocol :=
  let word := String.ofList (s.toList.map Char.toLower)
  if word = "udp" then .ok .udp
  else if word = "tcp" then .ok .tcp
  else .error (.notProtocol s)

/-- Takes the name of a file, which need not be there but must not be a directory. -/
def readFileName (t : Disk.Tree) (s : String) : Except BadValue String :=
  let path := Disk.Path.ofText s
  if path.hasBadName then .error .badName
  else
    match if s = "" then none else t.get? path with
    | some .directory => .error (.directory s)
    | some .locked => .error (.notReadable s)
    | _ => .ok s

/-! ### The options that stand before a command -/

/-- The options that stand before a command. -/
structure Options where
  /-- The file with settings. -/
  config : Option String := none
  /-- The gateway. -/
  gateway : Option String := none
  /-- The longest time of a receive. -/
  timeout : Option Binary64 := none
  /-- How often a receive is attempted. -/
  attempts : Option Int := none
  /-- Whether there are delays. -/
  backoff : Option Bool := none
  /-- How often more was to be written to the log. -/
  verbose : Nat := 0
  deriving DecidableEq

namespace Options

/-- The options as they were given. -/
abbrev Raw := List (GeneralOption × Given)

/-- Reads the value of an option with a reader of its own; an option that is not given has none. -/
def value {α : Type} (raw : Raw) (o : GeneralOption) (read : String → Except BadValue α) :
    Except Misuse (Option α) :=
  match lastGiven raw o with
  | some (.value s) =>
    match read s with
    | .ok a => .ok (some a)
    | .error cause => .error (.badValue (shownSpellings generalSpellings o) cause)
  | _ => .ok none

/-- The options with one more of them read. -/
def readOne (t : Disk.Tree) (raw : Raw) (options : Options) (o : GeneralOption) :
    Except Misuse Options :=
  match o with
  | .config => (value raw o (readFileName t)).map fun v => { options with config := v }
  | .gateway => (value raw o .ok).map fun v => { options with gateway := v }
  | .timeout => (value raw o readSeconds).map fun v => { options with timeout := v }
  | .attempts => (value raw o (readWithin 1 64)).map fun v => { options with attempts := v }
  | .backoff =>
    .ok { options with
      backoff := (lastGiven raw o).bind fun g =>
        match g with
        | .switch on => some on
        | .value _ => none }
  | .verbose => .ok { options with verbose := timesGiven raw o }
  | .help => .ok options

/-- Reads the options in the order in which they were given first. -/
def readAll (t : Disk.Tree) (raw : Raw) : Options → List GeneralOption → Except Misuse Options
  | options, [] => .ok options
  | options, o :: rest =>
    match readOne t raw options o with
    | .error m => .error m
    | .ok options => readAll t raw options rest

/-- Reads the options before a command, and gives the words from the command on. -/
def ofWords (t : Disk.Tree) (words : List String) : Except Misuse (Demand (Options × List String)) :=
  match Words.split generalSpellings false words with
  | .error cause => .error (.words cause)
  | .ok (raw, rest) =>
    if timesGiven raw .help ≠ 0 then .ok .help
    else (readAll t raw {} (optionsGiven raw)).map fun options => .proceed (options, rest)

end Options

/-! ### Commands -/

/-- A command with what it needs. -/
inductive Order where
  /-- Show the public address. -/
  | address
  /-- Show the default gateway. -/
  | gateway
  /-- Create or renew a mapping. -/
  | map (protocol : Protocol) (privatePort publicPort : Int) (lifetime : Option Int)
  /-- Delete a mapping. -/
  | unmap (protocol : Protocol) (privatePort : Int)
  deriving DecidableEq, Repr

namespace Order

/-- Reads an argument. -/
def argument {α : Type} (a : Argument) (read : String → Except BadValue α) (word : Option String) :
    Except Misuse α :=
  match word with
  | none => .error (.missingArgument a)
  | some s =>
    match read s with
    | .ok v => .ok v
    | .error cause => .error (.badValue ("'" ++ a.shown ++ "'") cause)

/-- Reads the lifetime among the options of a command. -/
def lifetime (c : Command) (raw : List (CommandOption × Given)) : Except Misuse (Option Int) :=
  match lastGiven raw .lifetime with
  | some (.value s) =>
    match readLifetime s with
    | .ok n => .ok (some n)
    | .error cause => .error (.badValue (shownSpellings c.spellings .lifetime) cause)
  | _ => .ok none

/-- Reads a command from its options and arguments. -/
def ofParts (c : Command) (raw : List (CommandOption × Given)) (words : List String) :
    Except Misuse Order := do
  let seconds ← lifetime c raw
  match c with
  | .address => return .address
  | .gateway => return .gateway
  | .map =>
    let protocol ← argument .protocol readProtocol words[0]?
    let privatePort ← argument .privatePort readPort words[1]?
    let publicPort ← argument .publicPort readPort (some (words[2]?.getD "0"))
    return .map protocol privatePort publicPort seconds
  | .unmap =>
    let protocol ← argument .protocol readProtocol words[0]?
    let privatePort ← argument .privatePort readPort words[1]?
    return .unmap protocol privatePort

/-- Reads a command from the words after its name. -/
def ofWords (c : Command) (words : List String) : Except Misuse (Demand Order) :=
  match Words.split c.spellings true words with
  | .error cause => .error (.words cause)
  | .ok (raw, arguments) =>
    if timesGiven raw .help ≠ 0 then .ok .help
    else
      match ofParts c raw arguments with
      | .error m => .error m
      | .ok order =>
        let extra := arguments.drop c.arguments.length
        if extra.isEmpty then .ok (.proceed order) else .error (.extraArguments extra)

end Order

/-! ### Finding the command -/

/-- Finds the command among the words after the options. Where its name should be, a word that begins
with a dash is looked at for options once more, so that help may be asked for there. -/
def findCommand (t : Disk.Tree) (words : List String) :
    Except Misuse (Demand (Command × List String)) :=
  match words with
  | [] => .error .missingCommand
  | name :: rest =>
    match Command.all.find? fun c => c.name == name with
    | some c => .ok (.proceed (c, rest))
    | none =>
      if name.toList.head? = some '-' then
        match Options.ofWords t words with
        | .error m => .error m
        | .ok .help => .ok .help
        | .ok (.proceed _) => .error (.noSuchCommand name)
      else .error (.noSuchCommand name)

end PortMap.Cli
