import PortMap.Numeral.Integer
import PortMap.Text.UpperCase
import PortMap.Value.Basic

/-!
# Settings in the environment

Eleven variables of the environment hold settings, each one of them. What a variable holds is text, and
it is typed before it is checked: the gateway and the log file are text as they stand, the log level is
written in capitals, the words for truth values become truth values, and a numeral becomes a number, a
real one where it has a point.

`Environment.toTable` is the table of the settings that the environment holds.
-/

namespace PortMap

/-- The variables that are set, with their texts. -/
abbrev Environment := List (String × String)

namespace Environment

open Text

/-- How the text of a variable is typed. -/
inductive Typing where
  /-- It is text as it stands. -/
  | text
  /-- It is text in capitals. -/
  | capitals
  /-- It may be a truth value or a number. -/
  | free
  deriving DecidableEq, Repr

/-- A variable that holds a setting. -/
structure Variable where
  /-- Its name. -/
  name : String
  /-- The section of the setting. -/
  section_ : String
  /-- The name of the setting. -/
  key : String
  /-- How it is typed. -/
  typing : Typing

/-- The variables that hold settings. -/
def known : List Variable := [
  ⟨"NATPMPC_GATEWAY", "client", "gateway", .text⟩,
  ⟨"NATPMPC_TIMEOUT", "client", "timeout", .free⟩,
  ⟨"NATPMPC_MAX_ATTEMPTS", "client", "max_attempts", .free⟩,
  ⟨"NATPMPC_RETRY_BACKOFF", "client", "retry_backoff", .free⟩,
  ⟨"NATPMPC_RETRY_BASE_DELAY", "client", "retry_base_delay", .free⟩,
  ⟨"NATPMPC_RETRY_MAX_DELAY", "client", "retry_max_delay", .free⟩,
  ⟨"NATPMPC_MAPPING_LIFETIME", "client", "mapping_lifetime", .free⟩,
  ⟨"NATPMPC_LOG_LEVEL", "observability", "log_level", .capitals⟩,
  ⟨"NATPMPC_LOG_FILE", "observability", "log_file", .text⟩,
  ⟨"NATPMPC_STRUCTURED_LOGGING", "observability", "structured_logging", .free⟩,
  ⟨"NATPMPC_LOG_CORRELATION_ID", "observability", "log_correlation_id", .free⟩]

/-- The words for truth values, in any case of letters. -/
def flagWords : List (String × Bool) :=
  [("true", true), ("yes", true), ("on", true), ("false", false), ("no", false), ("off", false)]

/-- Types a text that may be a truth value or a number. -/
def typeFree (s : String) : Value :=
  match flagWords.lookup (String.ofList (s.toList.map Char.toLower)) with
  | some b => .flag b
  | none =>
    if s.toList.contains '.' then ((readFloat? s.toList).map Value.real).getD (.text s)
    else ((readInt? s.toList).map (Value.whole ·)).getD (.text s)

/-- Types the text of a variable. -/
def typed (s : String) : Typing → Value
  | .text => .text s
  | .capitals => .text (upperCase s)
  | .free => typeFree s

/-- Sets a field in a section of a table. -/
def putWithin (t : Table) (section_ key : String) (v : Value) : Table :=
  t.put section_ (.table ((((t.get? section_).bind Value.table?).getD []).put key v))

/-- The table of the settings that the environment holds. -/
def toTable (e : Environment) : Table :=
  known.foldl
    (fun t x =>
      match e.lookup x.name with
      | some s => putWithin t x.section_ x.key (typed s x.typing)
      | none => t)
    []

/-- The environment with a variable set, or not set without a text. -/
def set (e : Environment) (name : String) (s : Option String) : Environment :=
  let others := e.filter fun x => x.1 != name
  match s with
  | some s => others ++ [(name, s)]
  | none => others

end Environment

end PortMap
