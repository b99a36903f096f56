import PortMap.Session.Async
import PortMap.Session.Direct

/-!
# Runs of a session

What a caller does with a session, one step after the other. A step is told once, and performed in
either of the two ways: with calls that wait, or as a coroutine in an event loop. `Step.perform` is the
outcome of a step, `Session.after` the session after it, and `Session.runSteps` the record of a run:
for each step its outcome and the trace that it left.
-/

namespace PortMap.Session

open Wire Net

/-- One step of a caller. -/
inductive Step where
  /-- Asks for the public address. -/
  | publicAddress
  /-- Asks for a mapping. -/
  | mapPort (protocol : ProtocolChoice) (privatePort publicPort lifetime : Value)
  /-- Asks for a mapping to be deleted. -/
  | unmapPort (protocol : ProtocolChoice) (privatePort : Value)
  /-- Sends the request for the public address. -/
  | sendPublicAddress
  /-- Sends a mapping request. -/
  | sendMapping (protocol : ProtocolChoice) (privatePort publicPort lifetime : Value)
  /-- Receives a reply. -/
  | read
  /-- Looks at the gateway. -/
  | gateway
  /-- Changes how often a receive is attempted. -/
  | setAttempts (n : Value)
  /-- Changes the delays. -/
  | setBackoff (b : Option Schedule)
  /-- Closes the session. -/
  | close
  /-- Enters the session as a context, and leaves it, which closes it. -/
  | context

/-- The answer of a step. -/
inductive Answer where
  /-- There is none. -/
  | nothing
  /-- A reply of the gateway. -/
  | reply (r : Reply)
  /-- The address of the gateway. -/
  | gateway (a : Address)
  /-- Entering the context gave the session itself. -/
  | entered
  deriving DecidableEq, Repr

/-- The reply that a public address was told in. -/
def Answer.ofAddress (a : UInt32 × Address) : Answer := .reply (.publicAddress a.1 a.2)

/-- The reply that a mapping was granted in. -/
def Answer.ofMapping (m : Mapping) : Answer :=
  .reply (.mapping m.protocol m.epoch m.privatePort m.publicPort m.lifetime)

/-- A step, one act after the other. -/
def Direct.step (manner : Manner) (s : Session) : Step → Exchange Answer
  | .publicAddress => Answer.ofAddress <$> Direct.publicAddress manner s
  | .mapPort protocol privatePort publicPort lifetime =>
    Answer.ofMapping <$> Direct.mapPort manner s protocol privatePort publicPort lifetime
  | .unmapPort protocol privatePort =>
    Answer.ofMapping <$> Direct.unmapPort manner s protocol privatePort
  | .sendPublicAddress => (fun _ => .nothing) <$> Direct.sendPublicAddress s
  | .sendMapping protocol privatePort publicPort lifetime =>
    (fun _ => .nothing) <$> Direct.sendMapping s protocol privatePort publicPort lifetime
  | .read => Answer.reply <$> Direct.read manner s
  | .gateway => pure (.gateway s.gateway)
  | .setAttempts _ | .setBackoff _ => pure .nothing
  | .close => (fun _ => .nothing) <$> Direct.close s
  | .context => (fun _ => .entered) <$> Direct.close s

/-- A step as a coroutine. -/
def Async.step (s : Session) : Step → Coroutine Answer
  | .publicAddress => Answer.ofAddress <$> Async.publicAddress s
  | .mapPort protocol privatePort publicPort lifetime =>
    Answer.ofMapping <$> Async.mapPort s protocol privatePort publicPort lifetime
  | .unmapPort protocol privatePort => Answer.ofMapping <$> Async.unmapPort s protocol privatePort
  | .sendPublicAddress => (fun _ => .nothing) <$> Async.sendPublicAddress s
  | .sendMapping protocol privatePort publicPort lifetime =>
    (fun _ => .nothing) <$> Async.sendMapping s protocol privatePort publicPort lifetime
  | .read => Answer.reply <$> Async.read s
  | .gateway => pure (.gateway s.gateway)
  | .setAttempts _ | .setBackoff _ => pure .nothing
  | .close => (fun _ => .nothing) <$> Async.close s
  | .context => (fun _ => .entered) <$> Async.close s

/-- Performs a step in a world. -/
def Step.perform (manner : Manner) (s : Session) (step : Step) (w : World) :
    Except Fault Answer × World :=
  match manner with
  | .blocking => (Direct.step .blocking s step).run w
  | .async => (Async.step s step).run s.transport w

/-- The session after a step. -/
def after (s : Session) : Step → Session
  | .setAttempts n => { s with maxAttempts := n }
  | .setBackoff b => { s with backoff := b }
  | _ => s

/-- What is recorded of a step: its outcome, and the world with the trace of this step only. -/
structure Record where
  /-- The answer or the fault. -/
  outcome : Except Fault Answer
  /-- The world after the step. -/
  world : World

/-- Performs steps one after the other, each in a world with an empty trace. -/
def runSteps (manner : Manner) (s : Session) : List Step → World → List Record
  | [], _ => []
  | step :: rest, w =>
    match step.perform manner s w.untraced with
    | (outcome, w) => ⟨outcome, w⟩ :: runSteps manner (s.after step) rest w

end PortMap.Session
