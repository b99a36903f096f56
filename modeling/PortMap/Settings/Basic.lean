import PortMap.Ipv4.Address
import PortMap.Log.Level
import PortMap.Schedule

/-!
# Settings

The settings of the client and of its log, with their defaults. They are read from a table of free
values (`Settings.Reading`) and written as such a table (`Settings.toTable`).
-/

namespace PortMap

namespace Settings

/-- The settings of the client. -/
structure Client where
  /-- The gateway; without one it is the gateway of the default route. -/
  gateway : Option Address := none
  /-- The longest time of a receive, in seconds. -/
  timeout : Binary64 := .quarter
  /-- How often a receive is attempted. -/
  maxAttempts : Int := 9
  /-- Whether there are delays between failed receives. -/
  retryBackoff : Bool := false
  /-- The first delay, in seconds. -/
  retryBaseDelay : Binary64 := .quarter
  /-- The longest delay, in seconds. -/
  retryMaxDelay : Binary64 := .sixtyFour
  /-- The lifetime of a mapping, in seconds. -/
  mappingLifetime : Int := 7200
  deriving DecidableEq

/-- The settings of the log. -/
structure Observability where
  /-- The least grave level that is written. -/
  logLevel : Log.Level := .warning
  /-- The file to which the log is written, if there is one. -/
  logFile : Option String := none
  /-- Whether entries are written as JSON. -/
  structuredLogging : Bool := false
  /-- Whether entries carry a correlation id. -/
  logCorrelationId : Bool := true
  deriving DecidableEq, Repr

end Settings

/-- All settings. -/
structure Settings where
  /-- Those of the client. -/
  client : Settings.Client := {}
  /-- Those of the log. -/
  observability : Settings.Observability := {}
  deriving DecidableEq

namespace Settings

instance : Inhabited Settings := ⟨{}⟩

/-- The delays between failed receives, if there are any. -/
def Client.schedule? (c : Client) : Option Schedule :=
  if c.retryBackoff then
    some { first := .real c.retryBaseDelay, ceiling := .real c.retryMaxDelay }
  else none

/-! ### Tables -/

/-- The settings of the client as a table, in the order of their fields. -/
def Client.toTable (c : Client) : Table :=
  [("gateway", (c.gateway.map fun a => Value.text a.text).getD .null),
    ("timeout", .real c.timeout),
    ("max_attempts", .whole c.maxAttempts),
    ("retry_backoff", .flag c.retryBackoff),
    ("retry_base_delay", .real c.retryBaseDelay),
    ("retry_max_delay", .real c.retryMaxDelay),
    ("mapping_lifetime", .whole c.mappingLifetime)]

/-- The settings of the log as a table, in the order of their fields. -/
def Observability.toTable (o : Observability) : Table :=
  [("log_level", .text o.logLevel.name),
    ("log_file", (o.logFile.map Value.text).getD .null),
    ("structured_logging", .flag o.structuredLogging),
    ("log_correlation_id", .flag o.logCorrelationId)]

/-- All settings as a table. -/
def toTable (s : Settings) : Table :=
  [("client", .table s.client.toTable), ("observability", .table s.observability.toTable)]

end Settings

end PortMap
