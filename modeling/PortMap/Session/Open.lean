import PortMap.Session.Step

/-!
# Opening sessions

A session with a gateway that is given, or with the default gateway of the host, over a socket of its
own. The gateway is taken for an address before a socket is made, so that a bad one costs nothing.
-/

namespace PortMap.Session

open Net

/-- Opens a session with a gateway whose address is known. -/
def openAt (manner : Manner) (gateway : Address) (timeout maxAttempts : Value)
    (backoff : Option Schedule) (w : World) : Except Fault Session × World :=
  match openSocket manner gateway timeout w with
  | (.error e, w) => (.error e, w)
  | (.ok transport, w) => (.ok ⟨transport, gateway, maxAttempts, backoff⟩, w)

/-- Opens a session with a gateway, which may be any value that is an address. -/
def openWith (manner : Manner) (gateway timeout maxAttempts : Value)
    (backoff : Option Schedule) (w : World) : Except Fault Session × World :=
  match Address.ofValue gateway with
  | .error e => (.error (.address e), w)
  | .ok a => openAt manner a timeout maxAttempts backoff w

/-- Finds the default gateway. -/
def discover (host : Route.Host) (w : World) : Except Fault Address × World :=
  match Route.Discovery.run host w with
  | (.ok a, w) => (.ok a, w)
  | (.error e, w) => (.error (.discovery e), w)

/-- Opens a session with the default gateway. -/
def openDefault (manner : Manner) (host : Route.Host) (timeout maxAttempts : Value)
    (backoff : Option Schedule) (w : World) : Except Fault Session × World :=
  match discover host w with
  | (.error e, w) => (.error e, w)
  | (.ok a, w) => openAt manner a timeout maxAttempts backoff w

end PortMap.Session
