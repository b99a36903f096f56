import PortMap.Session.Basic
import PortMap.Session.Socket

/-!
# Exchanges of a session, one act after the other

A request is sent once; then a datagram is waited for, at most as often as the session allows, with the
delays of its schedule between two attempts. Only a failed receive is attempted again: the first
datagram that arrives decides, whatever it says.

* `Direct.read` is the loop of receives, `Direct.write` the send.
* `Direct.publicAddress`, `Direct.mapPort` and `Direct.unmapPort` are the exchanges.

With calls that wait, a session does just this. The coroutines of `Session.Async` come to the same acts in
the same order, but sleep in the event loop; so what sleeps here is told the manner.
-/

namespace PortMap.Session

open Wire Net

/-- A sleep, in a call or of the event loop. -/
def Manner.sleep (manner : Manner) (d : Value) (w : World) : Except Timer.Fault Unit × World :=
  match manner with
  | .blocking => w.sleep d
  | .async => w.sleepAside d

/-- What a session does in a world: its answer or fault, and the world after it. -/
abbrev Exchange := ExceptT Fault (StateM World)

namespace Exchange

/-- Does something to the world that has an outcome. -/
def act {α : Type} (f : World → α × World) : Exchange α := fun w =>
  match f w with
  | (a, w) => (.ok a, w)

/-- Writes a notice. -/
def note (n : Log.Notice) : Exchange Unit := act fun w => ((), w.note n)

/-- The answer, or the fault. -/
def settle {α : Type} (r : Except Fault α) : Exchange α := fun w => (r, w)

/-- Sleeps. That a time is refused is a fault. -/
def sleep (manner : Manner) (d : Value) : Exchange Unit := do
  let slept ← act (manner.sleep d)
  settle (slept.mapError .wait)

end Exchange

namespace Direct

/-- Sends a request. -/
def write (s : Session) (request : Bytes) : Exchange Unit := do
  let outcome ← Exchange.act (s.transport.send request)
  Exchange.settle (checkSent request outcome)
  Exchange.note (s.sentNotice request)

/-- Waits for the delay of an attempt that has failed. -/
def pause (manner : Manner) (s : Session) (attempt : Nat) : Exchange Unit :=
  match s.backoff with
  | none => pure ()
  | some schedule => do
    let d ← Exchange.settle ((schedule.delay attempt).mapError .delay)
    Exchange.sleep manner d

/-- Receives a reply from an attempt on, with as many attempts as `left`. -/
def readFrom (manner : Manner) (s : Session) : (left attempt : Nat) → Exchange Reply
  | 0, _ => throw (.noReply s.gateway s.maxAttempts)
  | left + 1, attempt => do
    match ← Exchange.act (s.transport.recv areaSize) with
    | .ok d => Exchange.settle (readReply d)
    | .error f =>
      if f.isOs then
        Exchange.note (s.failedNotice attempt f)
        if left ≠ 0 then pause manner s attempt
        readFrom manner s left (attempt + 1)
      else throw (.network f)

/-- Receives a reply. -/
def read (manner : Manner) (s : Session) : Exchange Reply := do
  let n ← Exchange.settle s.attempts
  readFrom manner s n 0

/-- Sends the request for the public address. -/
def sendPublicAddress (s : Session) : Exchange Unit := write s Request.publicAddress.encode

/-- Sends a mapping request. -/
def sendMapping (s : Session) (protocol : ProtocolChoice) (privatePort publicPort lifetime : Value) :
    Exchange Unit := do
  let request ← Exchange.settle (mappingRequest protocol privatePort publicPort lifetime)
  write s request

/-- Asks for the public address. -/
def publicAddress (manner : Manner) (s : Session) : Exchange (UInt32 × Address) := do
  sendPublicAddress s
  let reply ← read manner s
  Exchange.settle (expectAddress reply)

/-- Asks for a mapping. -/
def mapPort (manner : Manner) (s : Session) (protocol : ProtocolChoice)
    (privatePort publicPort lifetime : Value) : Exchange Mapping := do
  sendMapping s protocol privatePort publicPort lifetime
  let reply ← read manner s
  let m ← Exchange.settle (expectMapping reply)
  Exchange.note (mappedNotice m.protocol m.privatePort m.publicPort m.lifetime)
  return m

/-- Asks for a mapping to be deleted, which is a mapping with lifetime zero. -/
def unmapPort (manner : Manner) (s : Session) (protocol : ProtocolChoice) (privatePort : Value) :
    Exchange Mapping := do
  let m ← mapPort manner s protocol privatePort (.whole 0) (.whole 0)
  let name ← Exchange.settle (protocolName protocol)
  Exchange.note (deletedNotice name privatePort)
  return m

/-- Closes the transport, if it can be closed. -/
def close (s : Session) : Exchange Unit :=
  match s.transport.closing with
  | .absent => pure ()
  | .immediate | .awaited => Exchange.act fun w => ((), w.call .close)

end Direct

end PortMap.Session
