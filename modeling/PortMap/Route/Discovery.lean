import PortMap.Net.World
import PortMap.Route.CommandOutput
import PortMap.Route.KernelTable
import PortMap.Route.PrintedTable
import PortMap.Text.Encoding

/-!
# Finding the default gateway

A client that is given no gateway takes the one of the default route of its host. What a host can tell
of its routes is a `Host`: the name of its platform, the file in which the kernel shows its routes, and
what the route commands do. On Windows the printed routing table is the only source. Elsewhere the
sources are, in this order, the file of the kernel, the command `ip` and the command `route`; the first
that names a gateway is the answer.

A file that cannot be read and a command that does not run are noted and passed over; a command that
ends with a status other than zero is passed over in silence. Bytes outside of ASCII in the file stop
the search.
-/

namespace PortMap.Route

open Net

/-! ### Hosts -/

/-- The file in which the kernel shows its routes. -/
inductive TableFile where
  /-- There is no such file. -/
  | absent
  /-- Reading it fails. -/
  | unreadable (text : String)
  /-- It holds these bytes. -/
  | holding (d : List UInt8)
  deriving DecidableEq, Repr

/-- What comes of running a command. -/
inductive CommandOutcome where
  /-- The command does not run. -/
  | failed (text : String)
  /-- The command takes too long. -/
  | timedOut
  /-- The command ends with a status and has printed a text. -/
  | ended (status : Int) (output : String)
  deriving DecidableEq, Repr

/-- What a host tells of its routes. -/
structure Host where
  /-- The name of the platform. -/
  platform : String := "Linux"
  /-- The file of the kernel. -/
  table : TableFile := .absent
  /-- What the commands do, by name; other commands are not there. -/
  commands : List (String × CommandOutcome) := []

/-- Why no gateway is found. -/
inductive Discovery.Fault where
  /-- No source names one. -/
  | notFound (platform : String)
  /-- The file of the kernel is not in ASCII. -/
  | undecodable (u : Text.Undecodable)
  deriving DecidableEq, Repr

namespace Discovery

/-- The log of the search. -/
def logger : String := Log.part "gateway"

/-- The name of the file of the kernel. -/
def tablePath : String := "/proc/net/route"

/-- The number of seconds that a command may take. -/
def commandSeconds : Nat := 5

/-! ### Commands -/

/-- The written form of a command line. -/
def commandLine (command : List String) : String := (Value.list (command.map .text)).literal

/-- Why a command gave no output, if it did not run to its end. -/
def commandFault? (host : Host) (command : List String) : Option String :=
  let program := command.headD ""
  match host.commands.lookup program with
  | none => some ("[Errno 2] No such file or directory: " ++ Text.quoted program)
  | some (.failed text) => some text
  | some .timedOut =>
    some ("Command '" ++ commandLine command ++ "' timed out after " ++ toString commandSeconds
      ++ " seconds")
  | some (.ended _ _) => none

/-- The output of a command that ends well. -/
def commandOutput? (host : Host) (command : List String) : Option String :=
  match host.commands.lookup (command.headD "") with
  | some (.ended status output) => if status = 0 then some output else none
  | _ => none

/-- Runs a command, and reads the gateway from its output. -/
def ask (host : Host) (command : List String) (read : List Char → Option Address) (w : World) :
    Option Address × World :=
  let w := w.call (.run command)
  let w :=
    match commandFault? host command with
    | some text =>
      w.note ⟨.debug, logger, "Route command " ++ command.headD "" ++ " failed: " ++ text⟩
    | none => w
  ((commandOutput? host command).bind fun output => read output.toList, w)

/-- The command that prints the routes on Windows. -/
def printCommand : List String := ["route", "print", "0.0.0.0"]

/-- The commands that show the default route elsewhere, in the order in which they are tried. -/
def showCommands : List (List String) :=
  [["ip", "-4", "route", "show", "default"], ["route", "-n", "get", "default"]]

/-- Runs the commands one after the other until one names a gateway. -/
def askAll (host : Host) : List (List String) → World → Option Address × World
  | [], w => (none, w)
  | command :: rest, w =>
    match ask host command CommandOutput.gateway? w with
    | (some a, w) => (some a, w)
    | (none, w) => askAll host rest w

/-! ### The search -/

/-- The gateway that the file of the kernel names. -/
def readTable (host : Host) (w : World) : Except Text.Undecodable (Option Address) × World :=
  match host.table with
  | .absent => (.ok none, w)
  | .unreadable text =>
    (.ok none, w.note ⟨.debug, logger, "Cannot read " ++ tablePath ++ ": " ++ text⟩)
  | .holding d => ((Text.readAscii d).map KernelTable.gateway?, w)

/-- The gateway that the sources of a platform other than Windows name. -/
def searchTableFirst (host : Host) (w : World) : Except Fault (Option Address) × World :=
  match readTable host w with
  | (.error u, w) => (.error (.undecodable u), w)
  | (.ok (some a), w) => (.ok (some a), w)
  | (.ok none, w) =>
    match askAll host showCommands w with
    | (found, w) => (.ok found, w)

/-- Finds the default gateway of a host. -/
def run (host : Host) (w : World) : Except Fault Address × World :=
  let found : Except Fault (Option Address) × World :=
    if host.platform = "Windows" then
      match ask host printCommand PrintedTable.gateway? w with
      | (found, w) => (.ok found, w)
    else searchTableFirst host w
  match found with
  | (.ok (some a), w) => (.ok a, w)
  | (.ok none, w) => (.error (.notFound host.platform), w)
  | (.error e, w) => (.error e, w)

end Discovery

end PortMap.Route
