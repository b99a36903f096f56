import PortMap.Net.Transport
import PortMap.Session.Fault

/-!
# Opening sockets

A socket is made, bound to a local end point, and told how long to wait; then it may be connected to a
gateway. A socket that cannot be bound or connected is closed before the fault is reported. One that cannot
be told how long to wait is not: the fault of a refused time leaves an open socket behind.
-/

namespace PortMap.Session

open Net

/-- The two ways of using the network. -/
inductive Manner where
  /-- Calls wait for their outcome. -/
  | blocking
  /-- Coroutines hand control to an event loop, which never waits in a call. -/
  | async
  deriving DecidableEq, Repr

/-- The end point to which sockets are bound by default: any address, any port. -/
def anyEndpoint : Endpoint := ⟨.text "0.0.0.0", .whole 0⟩

/-- The longest time of a receive by default, a quarter of a second. -/
def standardTimeout : Value := .real .quarter

/-- The log of the sockets. -/
def socketLogger : String := Log.part "transport"

/-- Makes a socket and binds it. -/
def bindSocket (local_ : Endpoint) (w : World) : Except Fault Unit × World :=
  let w := w.call .socket
  match w.socketFault with
  | some text => (.error (.socketNotMade text), w)
  | none =>
    let w := w.call (.bind local_)
    match w.bindFault with
    | some text => (.error (.socketNotBound text local_), w.call .close)
    | none => (.ok (), w)

/-- Makes a transport on a socket of its own. -/
def makeSocket (manner : Manner) (timeout : Value) (local_ : Endpoint) (w : World) :
    Except Fault Transport × World :=
  match bindSocket local_ w with
  | (.error e, w) => (.error e, w)
  | (.ok (), w) =>
    match manner with
    | .blocking =>
      let w := w.call (.setTimeout timeout)
      match w.timer.longestWait timeout with
      | .error e => (.error (.wait e), w)
      | .ok () => (.ok .waiting, w)
    | .async => (.ok (.polled timeout), w.call .setNonBlocking)

/-- Connects the socket. -/
def connectSocket (peer : Endpoint) (w : World) : Except Failure Unit × World :=
  let w := w.call (.connect peer)
  match w.connectFault with
  | some text => (.error ⟨.os, text⟩, w)
  | none => (.ok (), w)

/-- The words for a kind of socket. -/
def Manner.phrase : Manner → String
  | .blocking => "UDP socket"
  | .async => "asyncio UDP socket"

/-- The end point of the gateway. -/
def gatewayEndpoint (gateway : Address) : Endpoint := ⟨.text gateway.text, .whole Wire.gatewayPort⟩

/-- Makes a transport on a socket of its own and connects it to a gateway. -/
def openSocket (manner : Manner) (gateway : Address) (timeout : Value) (w : World) :
    Except Fault Transport × World :=
  match makeSocket manner timeout anyEndpoint w with
  | (.error e, w) => (.error e, w)
  | (.ok transport, w) =>
    match connectSocket (gatewayEndpoint gateway) w with
    | (.error failure, w) => (.error (.notConnected gateway failure.text), w.call .close)
    | (.ok (), w) =>
      (.ok transport, w.note ⟨.debug, socketLogger, "Connected " ++ manner.phrase ++ " to "
        ++ gateway.text ++ ":" ++ toString Wire.gatewayPort⟩)

end PortMap.Session
