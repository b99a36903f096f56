import PortMap.Session.Basic

/-!
# Coroutines

A coroutine is a computation that hands control back wherever it would have to wait. What it waits for
stands in the constructor, and the rest of the computation is a function of the outcome. The event loop
`Coroutine.run` supplies the outcomes: it performs each act on the transport and the world, and resumes
the coroutine with what came of it.
-/

namespace PortMap.Session

open Wire Net

/-- A computation that waits for acts of the event loop. -/
inductive Coroutine (α : Type) where
  /-- It has an answer or a fault. -/
  | done (r : Except Fault α)
  /-- It waits until the transport has sent the bytes. -/
  | send (d : Bytes) (next : Except Failure Int → Coroutine α)
  /-- It waits until the transport has received a datagram. -/
  | recv (size : Int) (next : Except Failure Bytes → Coroutine α)
  /-- It waits for a time, which the event loop may refuse. -/
  | sleep (d : Value) (next : Except Timer.Fault Unit → Coroutine α)
  /-- It writes a notice. -/
  | note (n : Log.Notice) (next : Unit → Coroutine α)
  /-- It tells the transport to close; the answer says whether the closing is still to be waited
  for. -/
  | close (next : Bool → Coroutine α)
  /-- It waits until the transport is closed. -/
  | closed (next : Unit → Coroutine α)

namespace Coroutine

variable {α β : Type}

/-- The coroutine that goes on with the answer of the first one. -/
def bind : Coroutine α → (α → Coroutine β) → Coroutine β
  | .done (.ok a), f => f a
  | .done (.error e), _ => .done (.error e)
  | .send d next, f => .send d fun r => (next r).bind f
  | .recv size next, f => .recv size fun r => (next r).bind f
  | .sleep d next, f => .sleep d fun r => (next r).bind f
  | .note n next, f => .note n fun u => (next u).bind f
  | .close next, f => .close fun b => (next b).bind f
  | .closed next, f => .closed fun u => (next u).bind f

instance : Monad Coroutine where
  pure a := .done (.ok a)
  bind := bind

/-! ### Single acts -/

/-- Sends bytes. -/
def sending (d : Bytes) : Coroutine (Except Failure Int) := .send d fun r => .done (.ok r)

/-- Receives a datagram. -/
def receiving (size : Int) : Coroutine (Except Failure Bytes) := .recv size fun r => .done (.ok r)

/-- Sleeps. -/
def sleeping (d : Value) : Coroutine (Except Timer.Fault Unit) := .sleep d fun r => .done (.ok r)

/-- Writes a notice. -/
def noting (n : Log.Notice) : Coroutine Unit := .note n fun u => .done (.ok u)

/-- The answer, or the fault. -/
def settle (r : Except Fault α) : Coroutine α := .done r

/-! ### The event loop -/

/-- Runs a coroutine over a transport. -/
def run (t : Transport) : Coroutine α → World → Except Fault α × World
  | .done r, w => (r, w)
  | .send d next, w =>
    match t.send d w with
    | (r, w) => (next r).run t w
  | .recv size next, w =>
    match t.recv size w with
    | (r, w) => (next r).run t w
  | .sleep d next, w =>
    match w.sleepAside d with
    | (r, w) => (next r).run t w
  | .note n next, w => (next ()).run t (w.note n)
  | .close next, w =>
    match t.closing with
    | .absent => (next false).run t w
    | .immediate => (next false).run t (w.call .close)
    | .awaited => (next true).run t w
  | .closed next, w => (next ()).run t (w.call .close)

end Coroutine

end PortMap.Session
