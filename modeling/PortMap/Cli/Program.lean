import PortMap.Cli.MappingTable
import PortMap.Cli.Override
import PortMap.Log.Setup
import PortMap.Session.Open
import PortMap.Settings.Store

/-!
# The program

From the words of a command line to what the user sees: the options are read, the command is found, the
settings are loaded with the options laid over them, and the command is carried out over a session of
coroutines, which is closed whatever happens.

A fault with a complaint is told, and the exit status is 1; a wrong use is told with the usage line, and
the status is 2. Every other fault leaves the program (`Escape`).
-/

namespace PortMap.Cli

open Net Session

/-- What the program runs in. -/
structure Surroundings where
  /-- The files. -/
  tree : Disk.Tree
  /-- The environment. -/
  environment : Environment := []
  /-- What the host tells of its routes. -/
  host : Route.Host := {}
  /-- The network. -/
  world : World := {}

/-- A fault that leaves the program. -/
inductive Escape where
  /-- A fault of the settings. -/
  | settings (f : Settings.Fault)
  /-- The log cannot be set up. -/
  | log (f : Log.SetupFault)
  /-- A path holds the character that ends names, so it cannot be looked up. -/
  | badName
  /-- A fault of a session. -/
  | session (f : Session.Fault)

/-- What is left of a run of the program. -/
structure Report where
  /-- The exit status. -/
  exit : Nat := 0
  /-- What is shown. -/
  output : String := ""
  /-- What is told of errors. -/
  errors : String := ""
  /-- The log level, once the log has been set up. -/
  level : Option Log.Level := none
  /-- The notices, in order. -/
  notices : List Log.Notice := []
  /-- The network with the trace of the run. -/
  world : World

/-- The exit status of a wrong use. -/
def misuseStatus : Nat := 2

/-- The exit status of a failure. -/
def failureStatus : Nat := 1

/-- What is told of a complaint. -/
def complaintScreen (c : Complaint) : String :=
  "Error: " ++ Text.withoutControls c.text ++ "\n"

/-! ### Carrying out a command -/

/-- Opens the session that the settings ask for. -/
def openSession (c : Settings.Client) (host : Route.Host) (w : World) :
    Except Session.Fault Session × World :=
  let attempts : Value := .whole c.maxAttempts
  match c.gateway with
  | some a => openAt .async a (.real c.timeout) attempts c.schedule? w
  | none => openDefault .async host (.real c.timeout) attempts c.schedule? w

/-- The notice that a command has failed. -/
def failedNotice : Log.Notice := ⟨.debug, Log.part "cli", "NAT-PMP request failed"⟩

/-- The network with the notice of a fault that is told the user. -/
def noteFault (e : Session.Fault) (w : World) : World :=
  if e.complaint?.isSome then w.note failedNotice else w

/-- Opens a session, does something with it, and closes it. -/
def withSession {α : Type} (c : Settings.Client) (host : Route.Host)
    (action : Session → Coroutine α) (w : World) : Except Session.Fault α × World :=
  match openSession c host w with
  | (.error e, w) => (.error e, noteFault e w)
  | (.ok s, w) =>
    match (action s).run s.transport w with
    | (r, w) =>
      match (Async.close s).run s.transport w, r with
      | (_, w), .ok a => (.ok a, w)
      | (_, w), .error e => (.error e, noteFault e w)

/-- What is shown of a public address. -/
def addressText (gateway : Address) (answer : UInt32 × Address) : String :=
  "Gateway: " ++ gateway.text ++ "\nPublic address: " ++ answer.2.text ++ "\nEpoch: "
    ++ toString answer.1.toNat ++ " s\n"

/-- What is shown of a mapping that was deleted. -/
def deletedText (protocol : Wire.Protocol) (privatePort : Int) : String :=
  "Removed " ++ protocol.label ++ " mapping for port " ++ toString privatePort ++ "\n"

/-- What is shown of the default gateway. -/
def gatewayText (a : Address) : String := "Default gateway: " ++ a.text ++ "\n"

/-- What a command does with a session, up to the text that is shown; the command that shows the
default gateway needs none. -/
def Order.conversation? (o : Order) (c : Settings.Client) : Option (Session → Coroutine String) :=
  match o with
  | .gateway => none
  | .address => some fun s => do
    let answer ← Async.publicAddress s
    return addressText s.gateway answer
  | .map protocol privatePort publicPort lifetime => some fun s => do
    let m ← Async.mapPort s (.known protocol) (.whole privatePort) (.whole publicPort)
      (.whole (lifetime.getD c.mappingLifetime))
    return MappingTable.render s.gateway m
  | .unmap protocol privatePort => some fun s => do
    let _ ← Async.unmapPort s (.known protocol) (.whole privatePort)
    return deletedText protocol privatePort

/-- Carries out a command; the answer is what is shown. -/
def Order.perform (o : Order) (c : Settings.Client) (host : Route.Host) (w : World) :
    Except Session.Fault String × World :=
  match o.conversation? c with
  | some talk => withSession c host talk w
  | none =>
    match discover host w with
    | (.ok a, w) => (.ok (gatewayText a), w)
    | (.error e, w) => (.error e, w)

/-- The report on a command that was carried out, with the notices that were written. -/
def Report.finish (start : Report) (settings : Settings) (outcome : Except Session.Fault String)
    (w : World) : Except Escape Report :=
  let level := settings.observability.logLevel
  let after : Report :=
    { start with
      world := w
      notices := start.notices ++ w.notices.filter fun n => level.admits n.level }
  match outcome with
  | .ok text => .ok { after with output := text }
  | .error e =>
    match e.complaint? with
    | some c => .ok { after with exit := failureStatus, errors := complaintScreen c }
    | none => .error (.session e)

/-! ### The whole run -/

/-- What a command line comes to before anything is done on the network. -/
inductive Plan where
  /-- There is nothing to do but to report. -/
  | finished (r : Report)
  /-- A command is to be carried out with the settings given. -/
  | carryOut (o : Order) (settings : Settings) (start : Report)

/-- The report on a wrong use. -/
def Misuse.report (m : Misuse) (where_ : Option Command) (start : Report) : Report :=
  { start with exit := misuseStatus, errors := m.screen where_ }

/-- What comes of a wrong use before the settings are loaded. The user is told, unless a path cannot be
looked up. -/
def Misuse.plan (m : Misuse) (start : Report) : Except Escape Plan :=
  match m with
  | .badValue _ .badName => .error .badName
  | m => .ok (.finished (m.report none start))

/-- Reads the words after a command. -/
def planCommand (c : Command) (words : List String) (settings : Settings) (start : Report) : Plan :=
  match Order.ofWords c words with
  | .error m => .finished (m.report (some c) start)
  | .ok .help => .finished { start with output := helpText (some c) }
  | .ok (.proceed o) => .carryOut o settings start

/-- Loads the settings, lays the options over them, sets up the log, and reads the words after the
command. -/
def planWithOptions (options : Options) (c : Command) (words : List String) (s : Surroundings) :
    Except Escape Plan :=
  let store : Settings.Store := { tree := s.tree, environment := s.environment }
  match store.init (options.config.bind Settings.namedPath?) with
  | (loaded, store) =>
    let start : Report := { world := s.world, notices := store.notices }
    match loaded with
    | .error fault =>
      match fault.account with
      | .inl c => .ok (.finished { start with exit := failureStatus, errors := complaintScreen c })
      | .inr _ => .error (.settings fault)
    | .ok l =>
      match options.laidOver l.held.checked with
      | .error issues =>
        let report := Settings.Issue.report Settings.Client.modelName issues
        .ok (.finished ((Misuse.badSettings report).report none start))
      | .ok settings =>
        match Log.openFile s.tree settings.observability with
        | .error fault => .error (.log fault)
        | .ok _ =>
          .ok (planCommand c words settings
            { start with level := some settings.observability.logLevel })

/-- What a command line comes to. -/
def plan (words : List String) (s : Surroundings) : Except Escape Plan :=
  let start : Report := { world := s.world }
  if words.isEmpty then .ok (.finished { start with exit := misuseStatus, errors := helpText none })
  else
    match Options.ofWords s.tree words with
    | .error m => m.plan start
    | .ok .help => .ok (.finished { start with output := helpText none })
    | .ok (.proceed (options, rest)) =>
      match findCommand s.tree rest with
      | .error m => m.plan start
      | .ok .help => .ok (.finished { start with output := helpText none })
      | .ok (.proceed (c, words)) => planWithOptions options c words s

/-- Runs the program. -/
def run (words : List String) (s : Surroundings) : Except Escape Report :=
  match plan words s with
  | .error e => .error e
  | .ok (.finished r) => .ok r
  | .ok (.carryOut o settings start) =>
    match o.perform settings.client s.host start.world with
    | (outcome, w) => start.finish settings outcome w

end PortMap.Cli
