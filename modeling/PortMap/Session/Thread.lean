import PortMap.Session.Open

/-!
# Work in a thread

The search for a gateway runs commands and waits for them, which would hold up the event loop. An asynchronous
caller therefore hands it to a worker thread. The event loop goes round; in each of its turns a worker may be
free, which then does all of the work, and the caller goes on with the result.
-/

namespace PortMap.Session

open Net

/-- Work for a worker thread. -/
inductive Job (α : Type) where
  /-- No worker has taken it up. -/
  | waiting (work : World → α × World)
  /-- It is done, and this came of it. -/
  | finished (r : α)

namespace Job

variable {α : Type}

/-- One turn of the event loop, in which a worker is free or not. -/
def turn (free : Bool) : Job α → World → Job α × World
  | .waiting work, w =>
    if free then
      match work w with
      | (r, w) => (.finished r, w)
    else (.waiting work, w)
  | .finished r, w => (.finished r, w)

/-- What came of the work, if it is done. -/
def result? : Job α → Option α
  | .waiting _ => none
  | .finished r => some r

/-- Waits for the result over some turns of the event loop. -/
def await : Job α → List Bool → World → Option α × World
  | job, [], w => (job.result?, w)
  | job, free :: turns, w =>
    match job.turn free w with
    | (job, w) => job.await turns w

end Job

/-- Finds the default gateway in a worker thread. -/
def discoverAside (host : Route.Host) : Job (Except Fault Address) := .waiting (discover host)

end PortMap.Session
