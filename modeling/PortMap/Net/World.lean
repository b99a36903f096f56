import PortMap.Log.Level
import PortMap.Net.Timer
import PortMap.Wire.Field

/-!
# The network as seen from one socket

What the network does to a client is given by a script: the outcome of each low-level send and receive
to come, and the faults of making, binding and connecting a socket. What a client does leaves a trace:
the calls it made, the delays it asked to sleep for, the notices it wrote.

A `World` holds both, and the timer by which a client waits. A send takes the next outcome of the script,
and is full when the script is used up; a receive takes the next outcome, and times out when the script is
used up. A sleep fails where the timer refuses its time, which depends on whether a call waits or the event
loop does.
-/

namespace PortMap.Net

open Wire

/-! ### Outcomes -/

/-- The kinds of failures that the network may raise. -/
inductive Failure.Kind where
  /-- A fault reported by the operating system. -/
  | os
  /-- Nothing happened in time; a fault of the operating system. -/
  | timeout
  /-- The peer refuses; a fault of the operating system. -/
  | refused
  /-- A bad value. -/
  | value
  /-- A value of a wrong kind. -/
  | wrongKind
  /-- The task was cancelled. -/
  | cancelled
  deriving DecidableEq, Repr

/-- A failure of the network. -/
structure Failure where
  /-- Its kind. -/
  kind : Failure.Kind
  /-- What it says. -/
  text : String
  deriving DecidableEq, Repr

/-- Whether a failure is a fault of the operating system. Only those are expected, and handled. -/
def Failure.isOs (f : Failure) : Bool :=
  match f.kind with
  | .os | .timeout | .refused => true
  | .value | .wrongKind | .cancelled => false

/-- Whether a failure says that nothing happened in time. -/
def Failure.isTimeout (f : Failure) : Bool := f.kind == .timeout

/-- The outcome of a low-level send. -/
inductive SendOutcome where
  /-- All bytes were written. -/
  | full
  /-- The number of written bytes that the send reports. -/
  | count (n : Int)
  /-- The send fails. -/
  | fails (f : Failure)
  deriving DecidableEq, Repr

/-- The outcome of a low-level receive. -/
inductive RecvOutcome where
  /-- A datagram arrives. -/
  | datagram (d : Bytes)
  /-- The receive fails. -/
  | fails (f : Failure)
  deriving DecidableEq, Repr

/-! ### Calls -/

/-- An end point: a host and a port, as the caller gives them. -/
structure Endpoint where
  /-- The host. -/
  host : Value
  /-- The port. -/
  port : Value

/-- A call to the operating system. -/
inductive Call where
  /-- A datagram socket is made. -/
  | socket
  /-- The socket is bound. -/
  | bind (local_ : Endpoint)
  /-- The longest wait of the socket is set; without a value it waits for ever. -/
  | setTimeout (t : Value)
  /-- The socket is told never to wait. -/
  | setNonBlocking
  /-- The socket is connected. -/
  | connect (peer : Endpoint)
  /-- Bytes are handed to the socket. -/
  | send (d : Bytes)
  /-- A datagram of at most so many bytes is asked for. -/
  | recv (size : Int)
  /-- The socket is closed. -/
  | close
  /-- A command is run. -/
  | run (command : List String)

/-! ### Worlds -/

/-- The script of the network and the trace of the client. -/
structure World where
  /-- The outcomes of the sends to come. -/
  sends : List SendOutcome := []
  /-- The outcomes of the receives to come. -/
  recvs : List RecvOutcome := []
  /-- Why no socket can be made, if none can. -/
  socketFault : Option String := none
  /-- Why no socket can be bound, if none can. -/
  bindFault : Option String := none
  /-- Why no socket can be connected, if none can. -/
  connectFault : Option String := none
  /-- By what times are waited. -/
  timer : Timer := .rehearsal
  /-- The calls that were made, in order. -/
  calls : List Call := []
  /-- The delays to sleep for that were asked for, in order; one that is refused is the last. -/
  sleeps : List Value := []
  /-- The notices that were written, in order. -/
  notices : List Log.Notice := []

namespace World

/-- Notes a call in the trace. -/
def call (w : World) (c : Call) : World := { w with calls := w.calls ++ [c] }

/-- Notes in the trace that a sleep is asked for. -/
def asked (w : World) (d : Value) : World := { w with sleeps := w.sleeps ++ [d] }

/-- A sleep in a call. -/
def sleep (w : World) (d : Value) : Except Timer.Fault Unit × World := (w.timer.sleep d, w.asked d)

/-- A sleep of the event loop. -/
def sleepAside (w : World) (d : Value) : Except Timer.Fault Unit × World :=
  (w.timer.sleepAside d, w.asked d)

/-- Writes a notice. -/
def note (w : World) (n : Log.Notice) : World := { w with notices := w.notices ++ [n] }

/-- The world with the same script and an empty trace. -/
def untraced (w : World) : World := { w with calls := [], sleeps := [], notices := [] }

/-- One low-level send. -/
def send (w : World) (d : Bytes) : Except Failure Int × World :=
  let w := w.call (.send d)
  match w.sends with
  | [] => (.ok d.length, w)
  | .full :: rest => (.ok d.length, { w with sends := rest })
  | .count n :: rest => (.ok n, { w with sends := rest })
  | .fails f :: rest => (.error f, { w with sends := rest })

/-- What a receive says when the script is used up. -/
def silence : Failure := ⟨.timeout, "timed out"⟩

/-- One low-level receive. The datagram is not cut to the size asked for. -/
def recv (w : World) (size : Int) : Except Failure Bytes × World :=
  let w := w.call (.recv size)
  match w.recvs with
  | [] => (.error silence, w)
  | .datagram d :: rest => (.ok d, { w with recvs := rest })
  | .fails f :: rest => (.error f, { w with recvs := rest })

end World

end PortMap.Net
