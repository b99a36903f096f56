import PortMap.Net.Transport
import PortMap.Schedule
import PortMap.Session.Fault

/-!
# Sessions

A session owns a transport that is connected to one gateway. It knows how often a receive may be
attempted, and the delays between failed attempts, if there are any. How it is used is told twice: one act
after the other (`Session.Direct`) and with coroutines (`Session.Async`).

Here stand what both have in common: the texts of their notices, the checks of a reply, and what an
argument becomes before anything is sent.
-/

namespace PortMap.Session

open Wire Net

/-- How often a receive is attempted by default. -/
def standardAttempts : Value := .whole 9

/-- The lifetime of a mapping by default, in seconds. -/
def standardLifetime : Nat := 7200

end PortMap.Session

namespace PortMap

open Wire Net Session

/-- A session with a gateway. -/
structure Session where
  /-- What carries its datagrams. -/
  transport : Transport
  /-- The gateway. -/
  gateway : Address
  /-- How often a receive is attempted. -/
  maxAttempts : Value := standardAttempts
  /-- The delays between failed attempts. -/
  backoff : Option Schedule := none

namespace Session

/-- The log of the sessions. -/
def logger : String := Log.part "client"

/-- The session around a transport. The gateway may be any value that is an address. -/
def wrap (transport : Transport) (gateway maxAttempts : Value) (backoff : Option Schedule) :
    Except Fault Session :=
  match Address.ofValue gateway with
  | .error e => .error (.address e)
  | .ok a => .ok ⟨transport, a, maxAttempts, backoff⟩

/-- How often a receive is attempted, which has to be a whole number; below zero it is never
attempted. -/
def attempts (s : Session) : Except Fault Nat :=
  match s.maxAttempts.wholeNumber? with
  | some n => .ok n.toNat
  | none => .error (.notCount s.maxAttempts.kindInFault)

/-! ### Notices -/

/-- The notice that a request was written. -/
def sentNotice (s : Session) (request : Bytes) : Log.Notice :=
  ⟨.debug, logger, "Sent " ++ toString request.length ++ " byte request to " ++ s.gateway.text⟩

/-- The notice that an attempt to receive has failed; attempts are counted from zero. -/
def failedNotice (s : Session) (attempt : Nat) (failure : Failure) : Log.Notice :=
  ⟨.debug, logger, "Receive attempt " ++ toString (attempt + 1) ++ "/"
    ++ toString (s.maxAttempts.wholeNumber?.getD 0)
    ++ " from " ++ s.gateway.text ++ " failed: " ++ failure.text⟩

/-- The notice that a mapping was granted. -/
def mappedNotice (protocol : Protocol) (privatePort publicPort : UInt16) (lifetime : UInt32) :
    Log.Notice :=
  ⟨.info, logger, "Mapped " ++ protocol.name ++ " port " ++ toString privatePort.toNat ++ " -> "
    ++ toString publicPort.toNat ++ " (lifetime: " ++ toString lifetime.toNat ++ " s)"⟩

/-- The notice that a mapping was deleted, with the name that the caller's protocol goes by. -/
def deletedNotice (protocol : String) (privatePort : Value) : Log.Notice :=
  ⟨.info, logger, "Deleted " ++ protocol ++ " port mapping for port " ++ privatePort.display⟩

/-! ### Outcomes -/

/-- What a send of a request amounts to: it must have written every byte. -/
def checkSent (request : Bytes) : Except Failure Int → Except Fault Unit
  | .error f => .error (if f.isOs then .sendFailed f.text else .network f)
  | .ok n => if n = request.length then .ok () else .error (.shortWrite n request.length)

/-- The reply in a datagram. -/
def readReply (d : Bytes) : Except Fault Reply := (Reply.decode d).mapError .reply

/-- The public address that a reply tells, and the epoch of the gateway. -/
def expectAddress : Reply → Except Fault (UInt32 × Address)
  | .publicAddress epoch address => .ok (epoch, address)
  | .mapping .. => .error (.unexpectedReply .publicAddress .mapping)

/-- A mapping that a gateway has granted. -/
structure Mapping where
  /-- The protocol. -/
  protocol : Protocol
  /-- The epoch of the gateway. -/
  epoch : UInt32
  /-- The port of the client. -/
  privatePort : UInt16
  /-- The port of the gateway. -/
  publicPort : UInt16
  /-- For how many seconds it is granted. -/
  lifetime : UInt32
  deriving DecidableEq, Repr

/-- The mapping that a reply grants. -/
def expectMapping : Reply → Except Fault Mapping
  | .mapping protocol epoch privatePort publicPort lifetime =>
    .ok ⟨protocol, epoch, privatePort, publicPort, lifetime⟩
  | .publicAddress .. => .error (.unexpectedReply .mapping .publicAddress)

/-- The message of a mapping request. -/
def mappingRequest (protocol : ProtocolChoice) (privatePort publicPort lifetime : Value) :
    Except Fault Bytes :=
  match Request.ofArguments protocol privatePort publicPort lifetime with
  | .error e => .error (.field e)
  | .ok r => .ok r.encode

/-- The name that the protocol of a caller goes by; a value that is none may have none. -/
def protocolName : ProtocolChoice → Except Fault String
  | .known p => .ok p.name
  | .lookalike name => .ok name.display
  | .unknown v => .error (.noProtocol v)

end Session

end PortMap
