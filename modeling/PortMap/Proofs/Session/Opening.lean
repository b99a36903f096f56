import PortMap.Proofs.Ipv4.RoundTrip
import PortMap.Proofs.Route.Search

/-!
# What opening a session leaves behind

A session is opened with a gateway that the caller gives or with the default gateway of a host
(`Source`), in either manner. The address of the gateway comes first; a socket is made only for an
address.

## What is proved

* `openAt_opens` — the calls of opening a session at an address and what comes of them, by the first of
  the four faults that strikes (`Opens`).
* `Opens.closedLast`, `Opens.not_connect`, `Opens.of_ok` — a socket that was made is closed once, as the
  last call, whenever opening fails with a complaint; it is not connected if it could not be bound; a session
  leaves it open and has the address it is connected to for its gateway.
* `Opens.of_wait` — **a socket that refuses its longest wait is left open**, in a session with calls that wait.
* `opening_lifecycle` — all of this for every way of opening a session.

## Honest scope

Making, binding and connecting a socket may fail, with a fault of the operating system; so may telling it how
long to wait, with a fault of the time (`Timer.longestWait`). Closing it does not.
-/

namespace PortMap.Session

open Net

/-! ### Sources of a gateway -/

/-- Where the gateway of a session comes from. -/
inductive Source where
  /-- The caller gives it. -/
  | given (gateway : Value)
  /-- It is the default gateway of a host. -/
  | host (h : Route.Host)

namespace Source

/-- The address of the gateway. -/
def address (source : Source) (w : World) : Except Fault Address × World :=
  match source with
  | .given v => ((Address.ofValue v).mapError .address, w)
  | .host h => discover h w

/-- Opens a session with the gateway of a source. -/
def openSession (source : Source) (manner : Manner) (timeout maxAttempts : Value)
    (backoff : Option Schedule) (w : World) : Except Fault Session × World :=
  match source with
  | .given v => openWith manner v timeout maxAttempts backoff w
  | .host h => openDefault manner h timeout maxAttempts backoff w

/-- Finding the address leaves nothing but commands that were run and notices. -/
theorem address_asks (source : Source) (w : World) : Route.Asks w (source.address w).2 := by
  cases source with
  | given v => exact .refl w
  | host h =>
    rw [address, discover_eq]
    exact Route.Discovery.run_asks h w

/-- A session is opened at the address of the gateway, and without an address nothing is opened. -/
theorem openSession_eq (source : Source) (manner : Manner) (timeout maxAttempts : Value)
    (backoff : Option Schedule) (w : World) :
    source.openSession manner timeout maxAttempts backoff w =
      match source.address w with
      | (.error e, u) => (.error e, u)
      | (.ok a, u) => openAt manner a timeout maxAttempts backoff u := by
  cases source with
  | given v =>
    simp only [openSession, openWith, address]
    cases Address.ofValue v <;> rfl
  | host h => rfl

end Source

/-! ### Calls of opening a session -/

/-- The call that tells a socket how long to wait. -/
def Manner.waitCall (manner : Manner) (timeout : Value) : Call :=
  match manner with
  | .blocking => .setTimeout timeout
  | .async => .setNonBlocking

/-- The transport on a socket of its own. -/
def Manner.transport (manner : Manner) (timeout : Value) : Transport :=
  match manner with
  | .blocking => .waiting
  | .async => .polled timeout

/-- Whether a socket takes the longest wait that it is told; a polled one is told none. -/
def Manner.takesWait (manner : Manner) (timer : Timer) (timeout : Value) : Except Timer.Fault Unit :=
  match manner with
  | .blocking => timer.longestWait timeout
  | .async => .ok ()

/-- What opening a session at an address calls, with what comes of it. The faults of the world strike in
the order in which they stand here. -/
inductive Opens (manner : Manner) (a : Address) (timeout maxAttempts : Value)
    (backoff : Option Schedule) (w : World) : Except Fault Session → List Call → Prop
  /-- No socket is made. -/
  | notMade {text : String} {e : Fault} : w.socketFault = some text →
      e.complaint? = some (.about .socket [("error", .text text)]) →
      Opens manner a timeout maxAttempts backoff w (.error e) [.socket]
  /-- The socket is not bound. -/
  | notBound {text : String} {e : Fault} : w.socketFault = none → w.bindFault = some text →
      e.complaint? = some (.about .socket
        [("error", .text text), ("local_addr", .group [.text "0.0.0.0", .whole 0])]) →
      Opens manner a timeout maxAttempts backoff w (.error e)
        [.socket, .bind ⟨.text "0.0.0.0", .whole 0⟩, .close]
  /-- The socket refuses its longest wait. -/
  | refused {cause : Timer.Fault} : w.socketFault = none → w.bindFault = none →
      manner.takesWait w.timer timeout = .error cause →
      Opens manner a timeout maxAttempts backoff w (.error (.wait cause))
        [.socket, .bind ⟨.text "0.0.0.0", .whole 0⟩, manner.waitCall timeout]
  /-- The socket is not connected. -/
  | notConnected {text : String} {e : Fault} : w.socketFault = none → w.bindFault = none →
      manner.takesWait w.timer timeout = .ok () → w.connectFault = some text →
      e.complaint? = some (.about .connection [("gateway", .text a.text), ("error", .text text)]) →
      Opens manner a timeout maxAttempts backoff w (.error e)
        [.socket, .bind ⟨.text "0.0.0.0", .whole 0⟩, manner.waitCall timeout,
          .connect ⟨.text a.text, .whole 5351⟩, .close]
  /-- The socket is connected to the gateway, and belongs to the session. -/
  | opened : w.socketFault = none → w.bindFault = none → manner.takesWait w.timer timeout = .ok () →
      w.connectFault = none →
      Opens manner a timeout maxAttempts backoff w
        (.ok ⟨manner.transport timeout, a, maxAttempts, backoff⟩)
        [.socket, .bind ⟨.text "0.0.0.0", .whole 0⟩, manner.waitCall timeout,
          .connect ⟨.text a.text, .whole 5351⟩]

variable {manner : Manner} {a : Address} {timeout maxAttempts : Value} {backoff : Option Schedule}
  {w : World}

/-- Making a socket that is bound: it is told how long to wait, which it may refuse. -/
theorem makeSocket_of_bound (manner : Manner) (timeout : Value) (local_ : Endpoint)
    (made : w.socketFault = none) (bound : w.bindFault = none) :
    makeSocket manner timeout local_ w =
      ((manner.takesWait w.timer timeout).map (fun _ => manner.transport timeout) |>.mapError .wait,
        ((w.call .socket).call (.bind local_)).call (manner.waitCall timeout)) := by
  cases manner with
  | async => simp only [makeSocket, bindSocket, World.call, made, bound]; rfl
  | blocking =>
    simp only [makeSocket, bindSocket, World.call, made, bound, Manner.takesWait, Manner.waitCall]
    cases w.timer.longestWait timeout <;> rfl

/-- **The calls of opening a session at an address.** -/
theorem openAt_opens (manner : Manner) (a : Address) (timeout maxAttempts : Value)
    (backoff : Option Schedule) (w : World) :
    ∃ calls, (openAt manner a timeout maxAttempts backoff w).2.calls = w.calls ++ calls ∧
      Opens manner a timeout maxAttempts backoff w
        (openAt manner a timeout maxAttempts backoff w).1 calls := by
  simp only [openAt, openSocket]
  -- the faults in the order in which they strike
  cases made : w.socketFault with
  | some text =>
    simp only [makeSocket, bindSocket, World.call, made]
    exact ⟨_, rfl, .notMade made rfl⟩
  | none =>
    cases bound : w.bindFault with
    | some text =>
      simp only [makeSocket, bindSocket, World.call, made, bound, List.append_assoc]
      exact ⟨_, rfl, .notBound made bound rfl⟩
    | none =>
      rw [makeSocket_of_bound manner timeout anyEndpoint made bound]
      cases taken : manner.takesWait w.timer timeout with
      | error cause =>
        simp only [Except.map, Except.mapError, World.call, List.append_assoc]
        exact ⟨_, rfl, .refused made bound taken⟩
      | ok _ =>
        simp only [Except.map, Except.mapError, connectSocket, World.call]
        cases connected : w.connectFault with
        | some text =>
          simp only [List.append_assoc]
          exact ⟨_, rfl, .notConnected made bound taken connected rfl⟩
        | none =>
          simp only [World.note, List.append_assoc]
          exact ⟨_, rfl, .opened made bound taken connected⟩

/-- The faults that strike do not depend on the commands that were run before. -/
theorem Opens.of_asks {u : World} {r : Except Fault Session} {calls : List Call}
    (asks : Route.Asks w u) (h : Opens manner a timeout maxAttempts backoff u r calls) :
    Opens manner a timeout maxAttempts backoff w r calls := by
  obtain ⟨_, _, rfl⟩ := asks
  cases h with
  | notMade made complaint => exact .notMade made complaint
  | notBound made bound complaint => exact .notBound made bound complaint
  | refused made bound taken => exact .refused made bound taken
  | notConnected made bound taken connected complaint => exact .notConnected made bound taken connected complaint
  | opened made bound taken connected => exact .opened made bound taken connected

/-! ### Lives of a socket -/

/-- A socket is made first, and neither another one made nor any closed. -/
def LeftOpen (calls : List Call) : Prop :=
  ∃ life, calls = .socket :: life ∧ ∀ c ∈ life, c ≠ .socket ∧ c ≠ .close

/-- A socket is made first, and closed once, last. -/
def ClosedLast (calls : List Call) : Prop := ∃ life, LeftOpen life ∧ calls = life ++ [.close]

theorem Manner.waitCall_ne (manner : Manner) (timeout : Value) :
    manner.waitCall timeout ≠ .socket ∧ manner.waitCall timeout ≠ .close := by
  cases manner <;> exact ⟨nofun, nofun⟩

/-- A socket that is bound and told how long to wait stays open. -/
theorem leftOpen_bound (manner : Manner) (timeout : Value) (local_ : Endpoint) :
    LeftOpen [.socket, .bind local_, manner.waitCall timeout] := by
  refine ⟨_, rfl, fun c hc => ?_⟩
  simp only [List.mem_cons, List.not_mem_nil, or_false] at hc
  rcases hc with rfl | rfl
  · exact ⟨nofun, nofun⟩
  · exact manner.waitCall_ne timeout

/-- So does one that is connected as well. -/
theorem leftOpen_connected (manner : Manner) (timeout : Value) (local_ peer : Endpoint) :
    LeftOpen [.socket, .bind local_, manner.waitCall timeout, .connect peer] := by
  obtain ⟨life, same, open_⟩ := leftOpen_bound manner timeout local_
  obtain rfl := (List.cons.inj same).2
  refine ⟨_, rfl, fun c hc => ?_⟩
  have apart : c ∈ [.bind local_, manner.waitCall timeout] ∨ c = .connect peer := by
    simpa [or_assoc] using hc
  rcases apart with hc | rfl
  · exact open_ c hc
  · exact ⟨nofun, nofun⟩

/-- What is left open is not closed last. -/
theorem LeftOpen.not_closedLast {calls : List Call} (h : LeftOpen calls) : ¬ ClosedLast calls := by
  rintro ⟨before, -, rfl⟩
  obtain ⟨life, same, open_⟩ := h
  have last : Call.close ∈ Call.socket :: life := same ▸ List.mem_append_right before (List.mem_singleton_self _)
  rcases List.mem_cons.mp last with made | closed
  · cases made
  · exact (open_ _ closed).2 rfl

namespace Opens

variable {r : Except Fault Session} {calls : List Call}

/-- **No socket is left behind** but one that refused its longest wait: a socket that was made is closed once,
as the last call, whenever opening fails with another fault. -/
theorem closedLast {e : Fault} (h : Opens manner a timeout maxAttempts backoff w (.error e) calls)
    (made : w.socketFault = none) (taken : ∀ cause, e ≠ .wait cause) : ClosedLast calls := by
  cases h with
  | notMade unmade => exact absurd (made.symm.trans unmade) nofun
  | notBound => exact ⟨[.socket, .bind _], ⟨_, rfl, by simp⟩, rfl⟩
  | refused => exact absurd rfl (taken _)
  | notConnected => exact ⟨_, leftOpen_connected manner timeout _ _, rfl⟩

/-- **A socket that refuses its longest wait is left open**, bound and not connected. -/
theorem of_wait {cause : Timer.Fault}
    (h : Opens manner a timeout maxAttempts backoff w (.error (.wait cause)) calls) :
    manner = .blocking ∧ w.timer.longestWait timeout = .error cause ∧ LeftOpen calls ∧
      ∀ peer, .connect peer ∉ calls := by
  cases h with
  | notMade _ complaint => cases complaint
  | notBound _ _ complaint => cases complaint
  | notConnected _ _ _ _ complaint => cases complaint
  | refused made bound refuses =>
    have life := leftOpen_bound manner timeout ⟨.text "0.0.0.0", .whole 0⟩
    cases manner with
    | async => cases refuses
    | blocking => exact ⟨rfl, refuses, life, by simp [Manner.waitCall]⟩

/-- A socket that could not be bound is not connected. -/
theorem not_connect {text : String} (h : Opens manner a timeout maxAttempts backoff w r calls)
    (unbound : w.bindFault = some text) (peer : Endpoint) : .connect peer ∉ calls := by
  cases h with
  | notMade => simp
  | notBound => simp
  | refused _ bound => exact absurd (bound.symm.trans unbound) nofun
  | notConnected _ bound => exact absurd (bound.symm.trans unbound) nofun
  | opened _ bound => exact absurd (bound.symm.trans unbound) nofun

/-- The socket of a session stays open, and its gateway is the address that the socket is connected to:
taking the text of that address for a gateway once more gives the same session. -/
theorem of_ok {s : Session} (h : Opens manner a timeout maxAttempts backoff w (.ok s) calls) :
    LeftOpen calls ∧ s.gateway = a ∧ wrap s.transport (.text a.text) maxAttempts backoff = .ok s := by
  cases h with
  | opened =>
    refine ⟨leftOpen_connected manner timeout _ _, rfl, ?_⟩
    rw [wrap, Address.ofValue_text]

end Opens

/-! ### Every way of opening a session -/

/-- The calls of opening a session connect a socket to no other peer, and leave none behind but one that refused
its longest wait. -/
structure Tidy (manner : Manner) (a : Address) (timeout maxAttempts : Value) (backoff : Option Schedule)
    (w : World) (r : Except Fault Session) (calls : List Call) : Prop where
  /-- The calls, and what comes of them, by the faults that strike. -/
  opens : Opens manner a timeout maxAttempts backoff w r calls
  /-- A socket that was made is closed once, as the last call, if opening fails, unless a time was refused. -/
  closed : ∀ e, r = .error e → w.socketFault = none → (∀ cause, e ≠ .wait cause) → ClosedLast calls
  /-- If a time was refused, it was by a socket whose calls wait; it was not connected, and is left open. -/
  refused : ∀ cause, r = .error (.wait cause) → manner = .blocking ∧
    w.timer.longestWait timeout = .error cause ∧ LeftOpen calls ∧ ∀ peer, .connect peer ∉ calls
  /-- A socket that could not be bound is not connected. -/
  unconnected : ∀ text, w.bindFault = some text → ∀ peer, .connect peer ∉ calls
  /-- The socket of a session stays open, and the gateway of the session is the address; a session made
  from its text is the same. -/
  gateway : ∀ s, r = .ok s → LeftOpen calls ∧ s.gateway = a ∧
    wrap s.transport (.text a.text) maxAttempts backoff = .ok s

/-- **What opening a session leaves behind.** Finding the address of the gateway makes no socket, and
without an address there is nothing more. With an address there is one socket at most, and it is left
open by a session, and by a socket that refuses its longest wait, and by nothing else. -/
theorem opening_lifecycle (source : Source) (manner : Manner) (timeout maxAttempts : Value)
    (backoff : Option Schedule) (w : World) :
    Route.Asks w (source.address w).2 ∧
    (∀ e, (source.address w).1 = .error e →
      source.openSession manner timeout maxAttempts backoff w = (.error e, (source.address w).2)) ∧
    ∀ a, (source.address w).1 = .ok a → ∃ calls,
      (source.openSession manner timeout maxAttempts backoff w).2.calls =
        (source.address w).2.calls ++ calls ∧
      Tidy manner a timeout maxAttempts backoff w
        (source.openSession manner timeout maxAttempts backoff w).1 calls := by
  have asks := source.address_asks w
  rw [source.openSession_eq manner]
  generalize source.address w = answer at asks ⊢
  obtain ⟨found, u⟩ := answer
  refine ⟨asks, ?_, ?_⟩
  · rintro e rfl
    rfl
  · rintro a rfl
    obtain ⟨calls, leaves, opens⟩ := openAt_opens manner a timeout maxAttempts backoff u
    replace opens := opens.of_asks asks
    refine ⟨calls, leaves, opens, fun e he => ?_, fun cause hc => ?_, fun text => opens.not_connect,
      fun s hs => ?_⟩
    · exact (he ▸ opens).closedLast
    · exact Opens.of_wait (hc ▸ opens)
    · exact Opens.of_ok (hs ▸ opens)

/-- A gateway to which no route leads: its socket is closed. -/
theorem opening_lifecycle_unreachable :
    ClosedLast ((Source.given (.text (Address.text ⟨10, 0, 0, 1⟩))).openSession .blocking
      standardTimeout standardAttempts none { connectFault := some "Network is unreachable" }).2.calls := by
  obtain ⟨-, -, opens⟩ := opening_lifecycle (.given (.text (Address.text ⟨10, 0, 0, 1⟩))) .blocking
    standardTimeout standardAttempts none { connectFault := some "Network is unreachable" }
  obtain ⟨calls, leaves, tidy⟩ := opens ⟨10, 0, 0, 1⟩ (by rw [Source.address, Address.ofValue_text]; rfl)
  rw [leaves]
  have failed := tidy.opens
  generalize ((Source.given (.text (Address.text ⟨10, 0, 0, 1⟩))).openSession .blocking standardTimeout
    standardAttempts none { connectFault := some "Network is unreachable" }).1 = r at failed tidy
  cases failed with
  | notMade made => cases made
  | notBound _ bound => cases bound
  | refused _ _ refuses => cases refuses
  | notConnected _ _ _ _ complaint =>
    refine tidy.closed _ rfl rfl fun cause same => ?_
    rw [same] at complaint
    cases complaint
  | opened _ _ _ connected => cases connected

/-- A second less than nothing, as a longest wait by a clock that runs: it is refused, and the socket is bound and
not closed. -/
theorem refused_wait_leaves_open :
    let timeout : Value := .real (Binary64.one.withSign true)
    let opened := (Source.given (.text (Address.text ⟨10, 0, 0, 1⟩))).openSession .blocking timeout
      standardAttempts none { timer := .running }
    opened.1 = .error (.wait .waitBelowZero) ∧
      opened.2.calls = [.socket, .bind ⟨.text "0.0.0.0", .whole 0⟩, .setTimeout timeout] ∧
      ¬ ClosedLast opened.2.calls := by
  intro timeout opened
  have refuses : Timer.running.longestWait timeout = .error .waitBelowZero := by decide +kernel
  have result : opened = (.error (.wait .waitBelowZero),
      { timer := .running, calls := [.socket, .bind ⟨.text "0.0.0.0", .whole 0⟩, .setTimeout timeout] }) := by
    simp only [opened, Source.openSession, openWith, Address.ofValue_text, openAt, openSocket]
    rw [makeSocket_of_bound _ _ _ rfl rfl]
    simp only [Manner.takesWait, refuses]
    rfl
  rw [result]
  exact ⟨rfl, rfl, (leftOpen_bound .blocking timeout _).not_closedLast⟩

end PortMap.Session
