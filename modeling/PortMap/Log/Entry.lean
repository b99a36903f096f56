import PortMap.Log.Level
import PortMap.Log.Template
import PortMap.Value.Json

/-!
# Structured log entries

A record is what a part of the library hands to the log: a level, the name of the log, a template and its
arguments, the place in the program, an error, a correlation id, and further attributes of any name. An
attribute with the name of one of the record's own takes its place.

`Record.entry` is the table that is written for a record as one line of JSON. Its fields are those of the
record, in a fixed order, and after them the further attributes; an attribute with the name of a field
takes the place of that field, and the names in `reserved` are left out.
-/

namespace PortMap.Log

/-- What a record brings along of an error. -/
inductive ErrorPart where
  /-- An account of it. -/
  | account (text : String)
  /-- A value in its place. -/
  | value (v : Value)

/-- A record of the log. -/
structure Record where
  /-- The name of the level. -/
  level : Value
  /-- The name of the log. -/
  logger : Value
  /-- The template of the message. -/
  template : Value
  /-- The arguments of the template; without them the template is the message. -/
  arguments : Option Template.Arguments
  /-- The module. -/
  module_ : Value
  /-- The function. -/
  function : Value
  /-- The line. -/
  line : Value
  /-- The correlation id. -/
  correlation : Option Value := none
  /-- What it brings along of an error. -/
  error : Option ErrorPart := none
  /-- A value in place of what makes the message, if there is one. -/
  maker : Option Value := none
  /-- The further attributes, in order. -/
  attributes : Table := []

/-- Why a record has no entry. -/
inductive Record.Fault where
  /-- Its template cannot be filled in. -/
  | template (cause : Template.Fault)
  /-- What stands in place of the maker of its message makes none. -/
  | notCallable (kind : String)
  /-- What stands in place of its error has no items. -/
  | noItems (kind : String)
  /-- It is a text or a list with too few items. -/
  | tooFewItems (ofList : Bool)
  /-- It is a table without the item. -/
  | noItem (key : Nat)
  /-- An item of it lacks an attribute. -/
  | noAttribute (kind name : String)
  /-- A further attribute would take the place of one of the record's own. -/
  | overwrites (name : String)
  deriving DecidableEq, Repr

/-- What is told of a record without an entry. -/
def Record.Fault.message : Record.Fault → String
  | .template cause => cause.message
  | .notCallable kind => "'" ++ kind ++ "' object is not callable"
  | .noItems kind => "'" ++ kind ++ "' object is not subscriptable"
  | .tooFewItems ofList => (if ofList then "list" else "string") ++ " index out of range"
  | .noItem key => toString key
  | .noAttribute kind name => "'" ++ kind ++ "' object has no attribute '" ++ name ++ "'"
  | .overwrites name =>
    Text.quoted ("Attempt to overwrite " ++ Text.quoted name ++ " in LogRecord")

/-- The names of attributes that are left out of an entry. -/
def reserved : List String := [
  "name", "msg", "args", "levelname", "levelno", "pathname", "filename", "module", "exc_info",
  "exc_text", "stack_info", "lineno", "funcName", "created", "msecs", "relativeCreated", "thread",
  "threadName", "processName", "process", "taskName", "getMessage", "correlation_id"]

/-! ### Parts of a record -/

/-- The name of the level with a number. -/
def levelName (n : Int) : String :=
  match Level.all.find? fun l => l.number == n with
  | some l => l.name
  | none => if n = 0 then "NOTSET" else "Level " ++ toString n

/-- The name of a file without the directories before it. -/
def fileName (path : List Char) : List Char := (path.reverse.takeWhile (· != '/')).reverse

/-- The name of a file without its last ending; points at the start belong to the name. -/
def dropEnding (name : List Char) : List Char :=
  let points := name.takeWhile (· == '.')
  let rest := name.drop points.length
  if rest.contains '.' then points ++ ((rest.reverse.dropWhile (· != '.')).drop 1).reverse else name

/-- The module that a file holds. -/
def moduleName (path : String) : String := String.ofList (dropEnding (fileName path.toList))

/-- The account of an error of a kind. -/
def errorAccount (kind message : String) : String :=
  if message = "" then kind else kind ++ ": " ++ message

/-- The correlation id of a record where none has been set. -/
def noCorrelation : String := "no-correlation-id"

/-- The correlation id that is written: the one that is set, unless it is empty. -/
def correlationOf (id : Value) : Value := if id.isTrue then id else .text noCorrelation

/-- The arguments that a value stands for; empty values stand for none. -/
def argumentsOfValue (v : Value) : Option Template.Arguments :=
  if v.isTrue then some (.ofValue v) else none

/-- The record with one further attribute. -/
def Record.attribute (r : Record) (name : String) (v : Value) : Record :=
  match name with
  | "levelname" => { r with level := v }
  | "name" => { r with logger := v }
  | "msg" => { r with template := v }
  | "args" => { r with arguments := argumentsOfValue v }
  | "module" => { r with module_ := v }
  | "funcName" => { r with function := v }
  | "lineno" => { r with line := v }
  | "correlation_id" => { r with correlation := some v }
  | "exc_info" => { r with error := some (.value v) }
  | "getMessage" => { r with maker := some v }
  | _ => { r with attributes := r.attributes.put name v }

/-- The record with further attributes. -/
def Record.extend (r : Record) (attributes : Table) : Record :=
  attributes.foldl (fun r a => r.attribute a.1 a.2) r

/-- The names that no further attribute of a record may have when it is handed to the log. -/
def ownNames : List String := [
  "message", "asctime", "name", "msg", "args", "levelname", "levelno", "pathname", "filename", "module",
  "exc_info", "exc_text", "stack_info", "lineno", "funcName", "created", "msecs", "relativeCreated",
  "thread", "threadName", "processName", "process"]

/-- The record with further attributes, none of which may have a name of the record's own. -/
def Record.extendChecked (r : Record) (attributes : Table) : Except Record.Fault Record :=
  match attributes.names.find? ownNames.contains with
  | some name => .error (.overwrites name)
  | none => .ok (r.extend attributes)

/-- The record with a correlation id in place of its own. -/
def Record.correlate (r : Record) (id : Value) : Record :=
  { r with correlation := some (correlationOf id) }

/-! ### Entries -/

/-- The message of a record, which is a text. -/
def Record.message (r : Record) : Except Record.Fault Value :=
  match r.maker, r.arguments with
  | some v, _ => .error (.notCallable v.kindInFault)
  | none, none => .ok (.text r.template.display)
  | none, some a => (Template.fill r.template.display a).mapError .template

/-- The account of an error of which three items are given. -/
def accountOfItems : List Value → Except Record.Fault String
  | _ :: .null :: .null :: _ => .ok "NoneType: None"
  | _ :: v :: .null :: _ => .error (.noAttribute v.kindInFault "__suppress_context__")
  | _ :: _ :: v :: _ => .error (.noAttribute v.kindInFault "tb_frame")
  | _ => .error (.tooFewItems true)

/-- The account of an error, from what a record brings along of it. -/
def ErrorPart.text? : ErrorPart → Except Record.Fault (Option String)
  | .account text => .ok (some text)
  | .value v =>
    if !v.isTrue then .ok none
    else
      match v with
      | .text s =>
        .error (if s.length < 3 then .tooFewItems false else .noAttribute v.kindInFault "tb_frame")
      | .list items | .group items => (accountOfItems items).map some
      | .table _ | .inlined _ => .error (.noItem 2)
      | v => .error (.noItems v.kindInFault)

/-- The account of the error of a record, if it has one. -/
def Record.exception (r : Record) : Except Record.Fault (Option String) :=
  match r.error with
  | none => .ok none
  | some part => part.text?

/-- The fields of a record, at a time. -/
def Record.fields (r : Record) (time message : Value) (exception : Option String) : Table :=
  [("timestamp", time), ("level", r.level), ("logger", r.logger), ("message", message),
    ("module", r.module_), ("function", r.function), ("line", r.line)]
    ++ (r.correlation.map fun id => ("correlation_id", id)).toList
    ++ (exception.map fun e => ("exception", Value.text e)).toList

/-- The entry of a record, at a time. -/
def Record.entry (r : Record) (time : Value) : Except Record.Fault Table :=
  match r.message, r.exception with
  | .error e, _ => .error e
  | .ok _, .error e => .error e
  | .ok message, .ok exception =>
    .ok (r.attributes.foldl
      (fun t a => if reserved.contains a.1 then t else Table.put t a.1 a.2)
      (r.fields time message exception))

/-- The entry of a record as a line of JSON. -/
def Record.json (r : Record) (time : Value) : Except Record.Fault String :=
  (r.entry time).map fun t => (Value.table t).json

end PortMap.Log
