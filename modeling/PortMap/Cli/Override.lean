import PortMap.Cli.Order
import PortMap.Settings.Overlay
import PortMap.Settings.Reading

/-!
# Options over settings

The options that stand before a command are laid over the loaded settings. Those of the client are
checked together with the settings that they do not name; if one of them is refused, nothing changes.
The verbosity sets the log level.
-/

namespace PortMap.Cli

namespace Options

/-- The settings of the client that the options name. -/
def clientTable (o : Options) : Table :=
  (o.gateway.map fun s => ("gateway", Value.text s)).toList
    ++ (o.timeout.map fun x => ("timeout", Value.real x)).toList
    ++ (o.attempts.map fun n => ("max_attempts", Value.whole n)).toList
    ++ (o.backoff.map fun b => ("retry_backoff", Value.flag b)).toList

/-- The log level that a verbosity stands for, if it is more than none. -/
def levelOf : (verbose : Nat) → Option Log.Level
  | 0 => none
  | 1 => some .info
  | _ + 2 => some .debug

/-- The settings of the client with the options laid over them. -/
def overClient (o : Options) (c : Settings.Client) : Settings.Checked Settings.Client :=
  if o.clientTable.isEmpty then .ok c
  else Settings.Client.ofTable (Table.overlay c.toTable o.clientTable)

/-- The settings with the options laid over them. -/
def laidOver (o : Options) (s : Settings) : Settings.Checked Settings :=
  match o.overClient s.client with
  | .error issues => .error issues
  | .ok client =>
    let level := (levelOf o.verbose).getD s.observability.logLevel
    .ok ⟨client, { s.observability with logLevel := level }⟩

end Options

end PortMap.Cli
