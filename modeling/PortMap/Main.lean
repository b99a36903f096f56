import PortMap.Cli.Program
import PortMap.Numeral.Places
import Std.Internal.UV.UDP
import Std.Net.Addr

/-!
# The program at work

What the library leaves to the world: the words, the environment and the files are read, the coroutine of
a command is run over a socket by an event loop, and the report is printed. Nothing is decided here.
-/

namespace PortMap.Main

open Net Session
open Std.Internal.UV.UDP (Socket)

/-! ### Reading the surroundings -/

/-- What stands at a path, if anything does. -/
def readEntry (path : String) : IO (Option Disk.Entry) := do
  try
    return some (.file (← IO.FS.readBinFile path).toList)
  catch e =>
    match e with
    | .noFileOrDirectory .. => return none
    | .permissionDenied .. => return some .locked
    | .inappropriateType .. => return some .directory
    | _ => return none

/-- The names of a path from the root. -/
def namesOf (path : String) : List String := (Disk.Path.ofText path).names

/-- The names that a path leads to from the working directory. -/
def follow (working : List String) (path : String) : List String :=
  let p := Disk.Path.ofText path
  p.names.foldl (fun here name => if name = ".." then here.dropLast else here ++ [name])
    (if p.root.isSome then [] else working)

/-- The files of settings that the words name, or that are looked for. -/
def readTree (words : List String) : IO Disk.Tree := do
  let working := namesOf ((← IO.getEnv "PWD").getD "/")
  let home := namesOf ((← IO.getEnv "HOME").getD "/")
  let bare : Disk.Tree := { working := working, home := home }
  let named :=
    match Cli.Options.ofWords bare words with
    | .ok (.proceed (options, _)) => (options.config.map (follow working)).toList
    | _ => []
  let mut entries := []
  for names in named ++ (Settings.searchPaths bare).map (·.names) do
    match ← readEntry ("/" ++ Disk.Path.joinNames names) with
    | some e => entries := entries ++ [(names, e)]
    | none => pure ()
  return { bare with entries := entries }

/-- The variables of the environment that hold settings. -/
def readEnvironment : IO Environment := do
  let mut found := []
  for x in Environment.known do
    match ← IO.getEnv x.name with
    | some s => found := found ++ [(x.name, s)]
    | none => pure ()
  return found

/-- The routes of the host, from the file of the kernel. -/
def readHost : IO Route.Host := do
  match ← readEntry Route.Discovery.tablePath with
  | some (.file d) => return { table := .holding d }
  | some _ => return { table := .unreadable "Permission denied" }
  | none => return {}

/-! ### The event loop -/

/-- A failure of the operating system. -/
def failureOf (e : IO.Error) : Failure := ⟨.os, toString e⟩

/-- A time in thousandths of a second. -/
def thousandths : Value → Nat
  | .real x => if x.isNegative then 0 else Places.scaled (Places.magnitude x) 3
  | v => (v.wholeNumber?.getD 0).toNat * 1000

/-- Sends all bytes. -/
def send (socket : Socket) (d : Wire.Bytes) : IO (Except Failure Int) := do
  try
    let promise ← socket.send #[ByteArray.mk d.toArray] none
    match ← IO.wait promise.result? with
    | some (.ok ()) => return .ok d.length
    | some (.error e) => return .error (failureOf e)
    | none => return .error ⟨.cancelled, ""⟩
  catch e => return .error (failureOf e)

/-- Receives a datagram before a deadline. -/
def receive (socket : Socket) (timeout : Value) (size : Int) : IO (Except Failure Wire.Bytes) := do
  try
    let promise ← socket.recv size.toNat.toUInt64
    let arrival := promise.result?.map fun r =>
      match r with
      | some (.ok (d, _)) => some (Except.ok d.toList)
      | some (.error e) => some (.error (failureOf e))
      | none => none
    let timer ← IO.asTask (IO.sleep (thousandths timeout).toUInt32)
    match ← IO.waitAny [arrival, timer.map fun _ => none] with
    | some r => return r
    | none =>
      socket.cancelRecv
      return .error (deadlinePassed timeout)
  catch e => return .error (failureOf e)

/-- Writes a notice if its level is written. -/
def write (level : Log.Level) (n : Log.Notice) : IO Unit :=
  if level.admits n.level then IO.eprintln (n.logger ++ ": " ++ n.text) else pure ()

/-- Runs a coroutine over a socket. The socket is closed when nothing holds it any more. -/
def runOver {α : Type} (socket : Socket) (timeout : Value) (level : Log.Level) :
    Coroutine α → IO (Except Fault α)
  | .done r => pure r
  | .send d next => do runOver socket timeout level (next (← send socket d))
  | .recv size next => do runOver socket timeout level (next (← receive socket timeout size))
  | .sleep d next => do
    match Timer.running.sleepAside d with
    | .ok () =>
      IO.sleep (thousandths d).toUInt32
      runOver socket timeout level (next (.ok ()))
    | .error e => runOver socket timeout level (next (.error e))
  | .note n next => do
    write level n
    runOver socket timeout level (next ())
  | .close next => runOver socket timeout level (next false)
  | .closed next => runOver socket timeout level (next ())

/-! ### Carrying out a command -/

/-- An address as the network library takes it. -/
def socketAddress (a : Address) (port : UInt16) : Std.Net.SocketAddress :=
  .v4 ⟨Std.Net.IPv4Addr.ofParts a.a a.b a.c a.d, port⟩

/-- Does something that may fail, with the fault of its failure. -/
def attempt {α : Type} (fault : String → Fault) (act : IO α) : ExceptT Fault IO α :=
  ExceptT.mk do
    try
      return .ok (← act)
    catch e => return .error (fault (toString e))

/-- Makes a socket that is connected to a gateway. -/
def connect (gateway : Address) : ExceptT Fault IO Socket := do
  let socket ← attempt .socketNotMade Socket.new
  attempt (.socketNotBound · anyEndpoint) (socket.bind (socketAddress .any 0))
  attempt (.notConnected gateway)
    (socket.connect (socketAddress gateway Wire.gatewayPort.toUInt16))
  return socket

/-- Carries out a command. -/
def perform (o : Cli.Order) (settings : Settings) (host : Route.Host) :
    ExceptT Fault IO String := do
  let c := settings.client
  let gateway ←
    match o.conversation? c, c.gateway with
    | some _, some a => pure a
    | _, _ => ExceptT.mk (pure (discover host {}).1)
  match o.conversation? c with
  | none => return Cli.gatewayText gateway
  | some talk =>
    let timeout : Value := .real c.timeout
    let socket ← connect gateway
    let session : Session := ⟨.polled timeout, gateway, .whole c.maxAttempts, c.schedule?⟩
    ExceptT.mk (runOver socket timeout settings.observability.logLevel (talk session))

/-! ### The whole run -/

/-- Prints a report; the answer is the exit status. -/
def print (r : Cli.Report) : IO UInt32 := do
  IO.print r.output
  IO.eprint r.errors
  return r.exit.toUInt32

/-- Prints a fault that leaves the program. -/
def printEscape : Cli.Escape → IO UInt32
  | .settings f => do
    IO.eprintln (f.account.elim Complaint.text id)
    return 1
  | .log f => do
    IO.eprintln f.message
    return 1
  | .badName => do
    IO.eprintln Cli.BadValue.badName.message
    return 1
  | .session f => do
    IO.eprintln f.message
    return 1

/-- Runs the program. -/
def run (words : List String) : IO UInt32 := do
  let host ← readHost
  let surroundings : Cli.Surroundings := ⟨← readTree words, ← readEnvironment, host, {}⟩
  match Cli.plan words surroundings with
  | .error e => printEscape e
  | .ok (.finished r) => do
    r.notices.forM (write .debug)
    print r
  | .ok (.carryOut o settings start) => do
    start.notices.forM (write .debug)
    let outcome ← (perform o settings host).run
    match start.finish settings outcome {} with
    | .error e => printEscape e
    | .ok r => print r

end PortMap.Main

/-- The program. -/
def main (words : List String) : IO UInt32 := PortMap.Main.run words
