import PortMap.Disk.Making
import PortMap.Log.Entry
import PortMap.Settings.Basic

/-!
# Setting up the log

The settings of the log say which handlers write it: one for the console, and one for a file if there is
one. Each writes the records from a level on, in one of three forms: as JSON, as a plain line with the
time, or for a person at a console.

`Setup.ofSettings` is what the settings ask for, and `openFile` opens the log file. `Setup.submitAll` takes
records, and `Setup.structuredEntries` and `Setup.plainLines` are what they leave behind.
-/

namespace PortMap.Log

/-- Where a handler writes to. -/
inductive Target where
  /-- The console, for a person. -/
  | console
  /-- The console, for a program. -/
  | stream
  /-- A file. -/
  | file (path : String)
  deriving DecidableEq, Repr

/-- How a handler writes a record. -/
inductive Form where
  /-- As JSON. -/
  | structured
  /-- As a plain line with the time. -/
  | plain
  /-- For a person. -/
  | rich
  deriving DecidableEq, Repr

/-- The template of a line of a form. -/
def Form.template : Form → String
  | .structured => "%(message)s"
  | .plain => "%(asctime)s %(levelname)s %(name)s: %(message)s"
  | .rich => "%(name)s: %(message)s"

/-- The template of the time of a form, if it has one. -/
def Form.timeTemplate : Form → Option String
  | .structured => none
  | .plain => some "%Y-%m-%d %H:%M:%S"
  | .rich => some "[%X]"

/-- A handler of the log. -/
structure Handler where
  /-- Where it writes to. -/
  target : Target
  /-- How it writes. -/
  form : Form
  /-- The least grave level that it writes. -/
  level : Level
  deriving DecidableEq, Repr

/-- The size in bytes at which a log file is put aside for a new one. -/
def fileLimit : Nat := 10 * 1024 * 1024

/-- How many log files that were put aside are kept. -/
def filesKept : Nat := 5

/-- What the settings of the log ask for. -/
structure Setup where
  /-- The handlers, in order. -/
  handlers : List Handler
  /-- The least grave level that reaches them. -/
  level : Level
  /-- Whether records are given a correlation id of their own. -/
  correlated : Bool

namespace Setup

/-- What the settings ask for. -/
def ofSettings (o : Settings.Observability) : Setup where
  handlers :=
    let console : Handler :=
      if o.structuredLogging then ⟨.stream, .structured, o.logLevel⟩
      else ⟨.console, .rich, o.logLevel⟩
    let form : Form := if o.structuredLogging then .structured else .plain
    match o.logFile with
    | none => [console]
    | some path => if path = "" then [console] else [console, ⟨.file path, form, o.logLevel⟩]
  level := o.logLevel
  correlated := o.logCorrelationId

/-- A record as it is handed to the log, with the number of its level and its further attributes. -/
structure Submission where
  /-- The number of its level. -/
  level : Int
  /-- The record without its further attributes. -/
  record : Record
  /-- The further attributes. -/
  attributes : Table

/-- Takes a record; one whose level is not reached is not looked at. For a person at a console the
message is made at once, so that there a template that cannot be filled in fails. -/
def submit (s : Setup) (x : Submission) : Except Record.Fault (Option Record) :=
  if !s.level.admitsNumber x.level then .ok none
  else
    match x.record.extendChecked x.attributes with
    | .error e => .error e
    | .ok r =>
      if s.handlers.any fun h => h.form == .rich then r.message.map fun _ => some r else .ok (some r)

/-- Takes records, one after the other; the answer is those whose level is reached. -/
def submitAll (s : Setup) : List Submission → Except Record.Fault (List Record)
  | [] => .ok []
  | x :: rest =>
    match s.submit x with
    | .error e => .error e
    | .ok r => (submitAll s rest).map (r.toList ++ ·)

/-- The plain line of a record at a time: the time, the level, the log and the message. A message with
halves of surrogate pairs cannot be written. -/
def plainLine? (time : String) (r : Record) : Option String :=
  match r.message with
  | .ok (.text message) =>
    some (time ++ " " ++ r.level.display ++ " " ++ r.logger.display ++ ": " ++ message)
  | _ => none

/-- The entries that a structured handler writes of records, each record with the correlation id that is
set. A record that has no entry is not written. -/
def structuredEntries (id time : Value) (records : List Record) : List Table :=
  records.filterMap fun r => ((r.correlate id).entry time).toOption

/-- The lines that a plain handler writes of records. -/
def plainLines (time : String) (records : List Record) : List String :=
  records.filterMap (plainLine? time)

end Setup

/-! ### The log file -/

/-- Why the log cannot be set up. -/
inductive SetupFault where
  /-- The directory of the log file cannot be made. -/
  | directory (cause : Disk.MakeFault)
  /-- The log file cannot be opened. -/
  | file
  deriving DecidableEq, Repr

/-- What is told of a log that cannot be set up. -/
def SetupFault.message : SetupFault → String
  | .directory cause => cause.message
  | .file => "Unable to configure handler 'file'"

/-- Opens the log file that the settings name, if they do; its directory is made first. -/
def openFile (t : Disk.Tree) (o : Settings.Observability) : Except SetupFault Disk.Tree :=
  match o.logFile with
  | none => .ok t
  | some name =>
    if name = "" then .ok t
    else
      match t.makeAll (Disk.Path.ofText name).parent with
      | .error e => .error (.directory e)
      | .ok t => if t.canWrite (.ofText name) then .ok t else .error .file

end PortMap.Log
