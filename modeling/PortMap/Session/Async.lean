import PortMap.Session.Coroutine

/-!
# Sessions of coroutines

The exchanges of a session as coroutines. They are the ones of `Session.Direct`, with each call that
would wait replaced by an act of the event loop.
-/

namespace PortMap.Session.Async

open Wire Net

/-- Sends a request. -/
def write (s : Session) (request : Bytes) : Coroutine Unit := do
  let outcome ← Coroutine.sending request
  Coroutine.settle (checkSent request outcome)
  Coroutine.noting (s.sentNotice request)

/-- Waits for the delay of an attempt that has failed. -/
def pause (s : Session) (attempt : Nat) : Coroutine Unit :=
  match s.backoff with
  | none => pure ()
  | some schedule => do
    let d ← Coroutine.settle ((schedule.delay attempt).mapError .delay)
    let slept ← Coroutine.sleeping d
    Coroutine.settle (slept.mapError .wait)

/-- Receives a reply from an attempt on, with as many attempts as `left`. What is attempted again is a
receive that the event loop gave up, or that failed with a fault of the operating system. -/
def readFrom (s : Session) : (left attempt : Nat) → Coroutine Reply
  | 0, _ => Coroutine.settle (.error (.noReply s.gateway s.maxAttempts))
  | left + 1, attempt => do
    match ← Coroutine.receiving areaSize with
    | .ok d => Coroutine.settle (readReply d)
    | .error f =>
      if f.isOs || f.isTimeout then
        Coroutine.noting (s.failedNotice attempt f)
        if left ≠ 0 then pause s attempt
        readFrom s left (attempt + 1)
      else Coroutine.settle (.error (.network f))

/-- Receives a reply. -/
def read (s : Session) : Coroutine Reply := do
  let n ← Coroutine.settle s.attempts
  readFrom s n 0

/-- Sends the request for the public address. -/
def sendPublicAddress (s : Session) : Coroutine Unit := write s Request.publicAddress.encode

/-- Sends a mapping request. -/
def sendMapping (s : Session) (protocol : ProtocolChoice) (privatePort publicPort lifetime : Value) :
    Coroutine Unit := do
  let request ← Coroutine.settle (mappingRequest protocol privatePort publicPort lifetime)
  write s request

/-- Asks for the public address. -/
def publicAddress (s : Session) : Coroutine (UInt32 × Address) := do
  sendPublicAddress s
  let reply ← read s
  Coroutine.settle (expectAddress reply)

/-- Asks for a mapping. -/
def mapPort (s : Session) (protocol : ProtocolChoice) (privatePort publicPort lifetime : Value) :
    Coroutine Mapping := do
  sendMapping s protocol privatePort publicPort lifetime
  let reply ← read s
  let m ← Coroutine.settle (expectMapping reply)
  Coroutine.noting (mappedNotice m.protocol m.privatePort m.publicPort m.lifetime)
  return m

/-- Asks for a mapping to be deleted, which is a mapping with lifetime zero. -/
def unmapPort (s : Session) (protocol : ProtocolChoice) (privatePort : Value) :
    Coroutine Mapping := do
  let m ← mapPort s protocol privatePort (.whole 0) (.whole 0)
  let name ← Coroutine.settle (protocolName protocol)
  Coroutine.noting (deletedNotice name privatePort)
  return m

/-- Closes the transport, and waits for it where that takes waiting. -/
def close (_s : Session) : Coroutine Unit :=
  .close fun remains => if remains then .closed fun u => .done (.ok u) else .done (.ok ())

end PortMap.Session.Async
