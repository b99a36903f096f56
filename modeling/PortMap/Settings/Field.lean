import PortMap.Settings.Reading

/-!
# The fields of the settings

Each of the eleven settings has a section and a name. `Settings.value` is the value of a setting, and the
table of a section holds the values of its fields in order (`Client.toTable_eq`, `Observability.toTable_eq`).
-/

namespace PortMap.Settings

/-- A section of the settings. -/
inductive Section where
  /-- The settings of the client. -/
  | client
  /-- The settings of the log. -/
  | observability
  deriving DecidableEq, Repr

/-- A setting. -/
inductive Field where
  /-- The gateway. -/
  | gateway
  /-- The longest time of a receive. -/
  | timeout
  /-- How often a receive is attempted. -/
  | maxAttempts
  /-- Whether there are delays between failed receives. -/
  | retryBackoff
  /-- The first delay. -/
  | retryBaseDelay
  /-- The longest delay. -/
  | retryMaxDelay
  /-- The lifetime of a mapping. -/
  | mappingLifetime
  /-- The least grave level that is written. -/
  | logLevel
  /-- The log file. -/
  | logFile
  /-- Whether entries are written as JSON. -/
  | structuredLogging
  /-- Whether entries carry a correlation id. -/
  | logCorrelationId
  deriving DecidableEq, Repr

namespace Field

/-- The name of a setting. -/
def name : Field → String
  | .gateway => "gateway"
  | .timeout => "timeout"
  | .maxAttempts => "max_attempts"
  | .retryBackoff => "retry_backoff"
  | .retryBaseDelay => "retry_base_delay"
  | .retryMaxDelay => "retry_max_delay"
  | .mappingLifetime => "mapping_lifetime"
  | .logLevel => "log_level"
  | .logFile => "log_file"
  | .structuredLogging => "structured_logging"
  | .logCorrelationId => "log_correlation_id"

end Field

namespace Section

/-- The name of a section. -/
def name : Section → String
  | .client => "client"
  | .observability => "observability"

/-- The name of the settings in a section. -/
def modelName : Section → String
  | .client => Client.modelName
  | .observability => Observability.modelName

/-- The settings in a section, in order. -/
def fields : Section → List Field
  | .client =>
    [.gateway, .timeout, .maxAttempts, .retryBackoff, .retryBaseDelay, .retryMaxDelay, .mappingLifetime]
  | .observability => [.logLevel, .logFile, .structuredLogging, .logCorrelationId]

/-- The sections, in order. -/
def all : List Section := [.client, .observability]

/-- The section with a name. -/
def ofName? (name : String) : Option Section := all.find? fun s => s.name == name

/-- The setting with a name in a section. -/
def field? (s : Section) (name : String) : Option Field := s.fields.find? fun f => f.name == name

end Section

/-- The value of a setting. -/
def value (s : Settings) : Field → Value
  | .gateway => (s.client.gateway.map fun a => Value.text a.text).getD .null
  | .timeout => .real s.client.timeout
  | .maxAttempts => .whole s.client.maxAttempts
  | .retryBackoff => .flag s.client.retryBackoff
  | .retryBaseDelay => .real s.client.retryBaseDelay
  | .retryMaxDelay => .real s.client.retryMaxDelay
  | .mappingLifetime => .whole s.client.mappingLifetime
  | .logLevel => .text s.observability.logLevel.name
  | .logFile => (s.observability.logFile.map Value.text).getD .null
  | .structuredLogging => .flag s.observability.structuredLogging
  | .logCorrelationId => .flag s.observability.logCorrelationId

theorem Client.toTable_eq (s : Settings) :
    s.client.toTable = Section.client.fields.map fun f => (f.name, s.value f) := rfl

theorem Observability.toTable_eq (s : Settings) :
    s.observability.toTable = Section.observability.fields.map fun f => (f.name, s.value f) := rfl

end PortMap.Settings
