import PortMap.Net.World
import PortMap.Value.Arithmetic

/-!
# Transports

A transport carries datagrams between a session and the network. There are three:

* one that hands over every send and receive as the network gives it;
* a waiting socket, which gives up a receive by itself and cuts a datagram to the size asked for;
* a polled socket, which never waits: it sends the rest of a request again and again until all bytes
  are written, and a receive is given up after a deadline.

`Transport.send`, `Transport.recv` and `Transport.closing` say what each of them does to the world.

## Honest scope

A failure of a polled socket is one that the event loop hands on. That the socket was not ready, or the call
interrupted, is none: the loop attempts such a send or receive again by itself.

The event loop is taken to set every deadline that is a number; that it refuses a whole number of seconds which
is larger than every number of the format is left out.
-/

namespace PortMap.Net

/-- How a transport is closed. -/
inductive Closing where
  /-- It has no way to be closed. -/
  | absent
  /-- It is closed when it is told to. -/
  | immediate
  /-- It is closed when the closing is waited for. -/
  | awaited
  deriving DecidableEq, Repr

/-- A transport. -/
inductive Transport where
  /-- Hands over what the network gives. -/
  | direct (closing : Closing)
  /-- A socket that waits. -/
  | waiting
  /-- A socket that never waits, with the longest time of a receive; without one it has no deadline. -/
  | polled (timeout : Value)

/-! ### Sending everything -/

/-- What comes of sending all bytes piece by piece: the pieces handed to the socket, the outcomes that
are left, and the failure that stopped it. -/
structure Pieces where
  /-- The pieces, in order. -/
  sent : List Wire.Bytes
  /-- The outcomes that are left. -/
  left : List SendOutcome
  /-- Why it stopped early. -/
  failure : Option Failure

/-- Hands over the bytes, and the rest of them after each send that wrote only some. -/
def Pieces.ofOutcomes : List SendOutcome → Wire.Bytes → Pieces
  | [], d => ⟨[d], [], none⟩
  | .full :: rest, d => ⟨[d], rest, none⟩
  | .fails f :: rest, d => ⟨[d], rest, some f⟩
  | .count n :: rest, d =>
    if (d.length : Int) ≤ n then ⟨[d], rest, none⟩
    else
      let more := ofOutcomes rest (d.drop n.toNat)
      { more with sent := d :: more.sent }

/-- Sends all bytes, piece by piece. -/
def World.sendAll (w : World) (d : Wire.Bytes) : Except Failure Int × World :=
  let pieces := Pieces.ofOutcomes w.sends d
  let w := { w with sends := pieces.left, calls := w.calls ++ pieces.sent.map .send }
  match pieces.failure with
  | some f => (.error f, w)
  | none => (.ok d.length, w)

/-! ### Receiving with a deadline -/

/-- The failure of a receive that is given up after a deadline. -/
def deadlinePassed (timeout : Value) : Failure :=
  ⟨.timeout, "No datagram within " ++ timeout.display ++ "s"⟩

/-- Whether a deadline has passed at the start: a time that is zero or less has; no value is no
deadline, and any other value is no time. -/
def deadlineAtStart (timeout : Value) : Except Value.Fault Bool :=
  match timeout with
  | .null => .ok false
  | t =>
    match t.number? with
    | some x => .ok x.atMostZero
    | none => .error (.order .notAbove t.kindInFault "int")

/-- The bytes that a receive of a size gives of a datagram: its beginning of that many bytes, or all but
its end of that many where the size is negative. -/
def cutTo (size : Int) (d : Wire.Bytes) : Wire.Bytes :=
  if 0 ≤ size then d.take size.toNat else d.take (d.length - size.natAbs)

/-- Receives a datagram, cut to the size asked for. -/
def World.recvCut (w : World) (size : Int) : Except Failure Wire.Bytes × World :=
  match w.recv size with
  | (.ok d, w) => (.ok (cutTo size d), w)
  | (.error f, w) => (.error f, w)

/-- Receives a datagram before a deadline. A deadline that has passed at the start leaves the socket
alone. -/
def World.recvBefore (timeout : Value) (w : World) (size : Int) :
    Except Failure Wire.Bytes × World :=
  match deadlineAtStart timeout with
  | .error e => (.error ⟨.wrongKind, e.message⟩, w)
  | .ok true => (.error (deadlinePassed timeout), w)
  | .ok false =>
    match w.recvCut size with
    | (.ok d, w) => (.ok d, w)
    | (.error f, w) => (.error (if f.kind = .timeout then deadlinePassed timeout else f), w)

namespace Transport

/-- Sends bytes; the answer is the number of bytes that the transport reports as written. -/
def send : Transport → Wire.Bytes → World → Except Failure Int × World
  | .direct _, d, w => w.send d
  | .waiting, d, w => w.send d
  | .polled _, d, w => w.sendAll d

/-- Receives a datagram. -/
def recv : Transport → Int → World → Except Failure Wire.Bytes × World
  | .direct _, size, w => w.recv size
  | .waiting, size, w => w.recvCut size
  | .polled timeout, size, w => w.recvBefore timeout size

/-- How a transport is closed. -/
def closing : Transport → Closing
  | .direct closing => closing
  | .waiting => .immediate
  | .polled _ => .awaited

end Transport

end PortMap.Net
