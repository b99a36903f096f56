/-!
# Log levels and notices

A notice is one line that a part of the library leaves in the log: how grave it is, which part wrote
it, and its text.
-/

namespace PortMap.Log

/-- How grave a notice is. -/
inductive Level where
  /-- Detail for finding faults. -/
  | debug
  /-- A thing done. -/
  | info
  /-- Something to look at. -/
  | warning
  /-- Something failed. -/
  | error
  /-- Everything failed. -/
  | critical
  deriving DecidableEq, Repr

namespace Level

/-- All levels, the least grave first. -/
def all : List Level := [.debug, .info, .warning, .error, .critical]

/-- The name of a level. -/
def name : Level → String
  | .debug => "DEBUG"
  | .info => "INFO"
  | .warning => "WARNING"
  | .error => "ERROR"
  | .critical => "CRITICAL"

/-- The number of a level; graver levels have larger ones. -/
def number : Level → Int
  | .debug => 10
  | .info => 20
  | .warning => 30
  | .error => 40
  | .critical => 50

/-- The number that a name of a level stands for, among them two older names and the name of no level
at all. -/
def numberOf? (s : String) : Option Int :=
  if s = "WARN" then some warning.number
  else if s = "FATAL" then some critical.number
  else if s = "NOTSET" then some 0
  else (all.find? fun l => l.name == s).map number

/-- The level with a name. -/
def ofName? (s : String) : Option Level := all.find? fun l => l.name == s

/-- Whether a level with a number passes where the level given is the least that does. -/
def admitsNumber (least : Level) (n : Int) : Bool := decide (least.number ≤ n)

/-- Whether a notice of the second level passes where the first one is the least that does. -/
def admits (least l : Level) : Bool := least.admitsNumber l.number

end Level

/-- The name of the log to which all parts of the library belong. -/
def root : String := "natpmpc"

/-- The name of the log of a part of the library. -/
def part (name : String) : String := root ++ "." ++ name

/-- One line of the log. -/
structure Notice where
  /-- How grave it is. -/
  level : Level
  /-- The name of the log. -/
  logger : String
  /-- What it says. -/
  text : String
  deriving DecidableEq, Repr

end PortMap.Log
