import PortMap.Proofs.Net.Pieces
import PortMap.Proofs.Session.Misfit
import PortMap.Proofs.Session.Respected

/-!
# Sends that write only some of the bytes

A low-level send may write fewer bytes than it is offered. A socket that never waits is then offered the rest,
until all bytes are written; a socket that waits is offered them once, and the session complains.

## What is proved

* `step_eq_shortWrite_iff` — when a session complains that too few bytes were written.
* `polled_respected` — over a socket that never waits, a session cannot tell in how many pieces its requests
  are written.
* `partial_writes` — **both kinds of sockets, over every run.**
-/

namespace PortMap

open Wire

namespace Net

/-- No send to come fails. -/
def World.Unfailing (w : World) : Prop := ∀ f, .fails f ∉ w.sends

/-- What a send gives does not depend on the trace. -/
theorem World.send_untraced (w : World) (d : Bytes) : (w.untraced.send d).1 = (w.send d).1 := by
  obtain ⟨sends, _⟩ := w
  rcases sends with _ | ⟨_ | _ | _, rest⟩ <;> rfl

/-- Two worlds in which no send to come fails are the same, but for the pieces that were sent and those to
come. -/
structure SameButPieces (u v : World) : Prop where
  /-- No send to come fails in the one, … -/
  unfailing : u.Unfailing
  /-- … and none in the other. -/
  unfailing_right : v.Unfailing
  /-- The receives to come. -/
  recvs : u.recvs = v.recvs
  /-- The timer. -/
  timer : u.timer = v.timer
  /-- The calls that are no sends. -/
  calls : u.calls.filter (·.bytes?.isNone) = v.calls.filter (·.bytes?.isNone)
  /-- The delays. -/
  sleeps : u.sleeps = v.sleeps
  /-- The notices. -/
  notices : u.notices = v.notices

theorem SameButPieces.untraced {u v : World} (same : SameButPieces u v) :
    SameButPieces u.untraced v.untraced :=
  { same with calls := rfl, sleeps := rfl, notices := rfl }

end Net

namespace Session

open Net

variable {manner : Manner} {s : Session} {w : World} {step : Step} {request : Bytes}

/-! ### Complaints of too few bytes -/

/-- **When a session complains of too few bytes**: its step has a request, the send of which reports another
number of bytes. -/
theorem step_eq_shortWrite_iff {n : Int} {k : Nat} :
    (Direct.step manner s step w).1 = .error (.shortWrite n k) ↔
      ∃ request, step.request? = some (.ok request) ∧ (s.transport.send request w).1 = .ok n ∧
        n ≠ request.length ∧ k = request.length := by
  constructor
  · intro complained
    -- a complaint of too few bytes is no fault that comes after a request
    cases asked : step.request? with
    | none => exact False.elim ((later_of_unasked s asked w trivial).1 _ complained)
    | some made =>
      cases made with
      | error e =>
        obtain ⟨cause, rfl⟩ := request?_eq_error asked
        rw [step_eq_asking s asked] at complained
        cases complained
      | ok request =>
        obtain ⟨f, failed, ended⟩ | ⟨n', sent, other, ended⟩ | ⟨sent, ended⟩ := step_of_request (s := s) asked w
        · rw [ended] at complained
          split at complained <;> cases complained
        · rw [ended] at complained
          cases complained
          exact ⟨request, rfl, sent, other, rfl⟩
        · rw [ended] at complained
          exact False.elim ((following_later s step _ trivial).1 _ complained)
  · rintro ⟨request, asked, sent, other, rfl⟩
    rw [step_of_short asked sent other]

/-- Nothing follows a send that has written too few bytes. -/
theorem world_of_shortWrite {n : Int} {k : Nat}
    (complained : (Direct.step manner s step w).1 = .error (.shortWrite n k)) :
    ∃ request, step.request? = some (.ok request) ∧
      (Direct.step manner s step w).2 = (s.transport.send request w).2 := by
  obtain ⟨request, asked, sent, other, -⟩ := step_eq_shortWrite_iff.mp complained
  exact ⟨request, asked, by rw [step_of_short asked sent other]⟩

/-! ### Sockets that never wait -/

variable (timeout : Value)

theorem send_unfailing (d : Bytes) (h : w.Unfailing) :
    ((Transport.polled timeout).send d w).1 = .ok d.length ∧
      ((Transport.polled timeout).send d w).2.Unfailing := by
  refine ⟨?_, ?_⟩
  · have unstopped : (Pieces.ofOutcomes w.sends d).failure = none := by
      rw [Option.eq_none_iff_forall_ne_some]
      exact fun f stopped => h f (Pieces.mem_of_failure stopped)
    rw [Transport.send_polled, unstopped]
  · rw [Transport.send_polled_world]
    exact fun f left => h f (Pieces.mem_of_left left)

/-- **Over a socket that never waits, a session cannot tell in how many pieces its requests are written.** -/
theorem polled_respected : Respected SameButPieces (.polled timeout) where
  send d u v same := by
    obtain ⟨sent, unfailing⟩ := send_unfailing timeout d same.unfailing
    obtain ⟨sent', unfailing'⟩ := send_unfailing timeout d same.unfailing_right
    have hidden (pieces : List Bytes) : (pieces.map Call.send).filter (·.bytes?.isNone) = [] := by
      simp [Call.bytes?]
    -- both have written everything, and the pieces, which may differ, are not among the other calls
    simp only [Transport.send_polled_world] at unfailing unfailing' ⊢
    refine ⟨sent.trans sent'.symm, { same with unfailing, unfailing_right := unfailing', calls := ?_ }⟩
    simp only [List.filter_append, hidden, List.append_nil, same.calls]
  recv u v same := by
    obtain ⟨received, recvs⟩ := (Transport.polled timeout).recv_congr areaSize same.recvs
    obtain ⟨calls, sleeps, notices⟩ := (Transport.polled timeout).recv_frame areaSize u
    obtain ⟨calls', sleeps', notices'⟩ := (Transport.polled timeout).recv_frame areaSize v
    refine ⟨received, ?_, ?_, recvs, ?_, ?_, ?_, ?_⟩
    · rw [World.Unfailing, Transport.recv_sends]
      exact same.unfailing
    · rw [World.Unfailing, Transport.recv_sends]
      exact same.unfailing_right
    · rw [Transport.recv_timer, Transport.recv_timer, same.timer]
    · rw [calls, calls', List.filter_append, List.filter_append, same.calls]
    · rw [sleeps, sleeps', same.sleeps]
    · rw [notices, notices', same.notices]
  sleep d u v same := ⟨same.timer, { same with sleeps := congrArg (· ++ [d]) same.sleeps }⟩
  note n u v same := { same with notices := congrArg (· ++ [n]) same.notices }
  close u v same := { same with calls := by simp only [World.call, List.filter_append, same.calls] }

/-! ### Pieces -/

/-- The pieces that were handed over to be sent in a step. -/
def Record.pieces (r : Record) : List Bytes := r.world.calls.filterMap Call.bytes?

/-- The bytes that were written in a step, put together, where `outcomes` are those of the sends from this step
on. -/
def Record.written (r : Record) (outcomes : List SendOutcome) : Bytes := (accepted outcomes r.pieces).flatten

/-- What a step makes of its request over a socket that never waits, where `outcomes` are those of the sends
from this step on. -/
structure Delivers (outcomes : List SendOutcome) (request : Bytes) (r : Record) : Prop where
  /-- Where none of its sends fails, the request is written, each byte of it once and in its place. -/
  whole : (∀ f, .fails f ∉ outcomes.take r.pieces.length) → r.written outcomes = request
  /-- Where one of its sends fails, the beginning of the request is written, and nothing follows. The failure
  is one of the network if the operating system reports it, and passes unchanged if not. -/
  stopped : ∀ f, .fails f ∈ outcomes.take r.pieces.length →
    r.written outcomes <+: request ∧ r.world.calls = r.pieces.map .send ∧
      ∃ e, r.outcome = .error e ∧ (f.isOs → e.IsNetworkFailure) ∧ (¬ f.isOs → e = .network f)

variable {timeout}

/-- The pieces of a step are those of its request. -/
theorem pieces_record (polled : s.transport = .polled timeout) (asked : step.request? = some (.ok request))
    (manner : Manner) (w : World) :
    (record manner s w step).pieces = (Pieces.ofOutcomes w.sends request).sent := by
  have handed : (s.transport.send request w.untraced).2.calls =
      (Pieces.ofOutcomes w.sends request).sent.map .send := by
    rw [s.transport.send_calls, polled]
    rfl
  have sends : ((Pieces.ofOutcomes w.sends request).sent.map Call.send).filterMap Call.bytes? =
      (Pieces.ofOutcomes w.sends request).sent := by
    simp [List.filterMap_map, Function.comp_def, Call.bytes?]
  rw [Record.pieces, record, perform_eq]
  obtain ⟨f, -, ended⟩ | ⟨n, -, -, ended⟩ | ⟨-, ended⟩ := step_of_request (s := s) asked w.untraced
  · rw [ended, handed, sends]
  · rw [ended, handed, sends]
  · obtain ⟨n, -, calls⟩ := following_receives s step
      ((s.transport.send request w.untraced).2.note (s.sentNotice request))
    rw [ended, calls, World.note, handed, List.filterMap_append, sends,
      List.filterMap_replicate_of_none rfl, List.append_nil]

/-- **A step delivers its request**, over a socket that never waits. -/
theorem record_delivers (polled : s.transport = .polled timeout)
    (asked : step.request? = some (.ok request)) (manner : Manner) (w : World) :
    Delivers w.sends request (record manner s w step) := by
  have pieces := pieces_record polled asked manner w
  refine ⟨fun unfailing => ?_, fun f failing => ?_⟩
  · rw [pieces] at unfailing
    rw [Record.written, pieces]
    refine Pieces.flatten_accepted ?_
    rw [Option.eq_none_iff_forall_ne_some]
    exact fun f stopped => unfailing f (Pieces.failure_eq_some_iff.mp stopped)
  · rw [pieces, ← Pieces.failure_eq_some_iff] at failing
    refine ⟨?_, ?_⟩
    · rw [Record.written, pieces]
      exact Pieces.accepted_prefix w.sends request
    · have sent : (s.transport.send request w.untraced).1 = .error f := by
        rw [polled, Transport.send_polled]
        simp only [World.untraced, failing]
      rw [pieces, record, perform_eq, step_of_failed asked sent, s.transport.send_calls, polled]
      refine ⟨rfl, _, rfl, fun os => ?_, fun other => if_neg other⟩
      rw [if_pos os]
      exact ⟨_, rfl, rfl⟩

/-! ### Runs -/

theorem eq_record {manner : Manner} {steps : List Step} {i : Nat} {r : Record} (there : steps[i]? = some step)
    (recorded : (runSteps manner s steps w)[i]? = some r) :
    r = record manner (s.afterAll (steps.take i)) (worldAfter manner s (steps.take i) w) step := by
  rw [getElem?_runSteps, there, Option.map_some, Option.some.injEq] at recorded
  exact recorded.symm

/-- Steps keep the transport of a session. -/
theorem transport_afterAll (s : Session) (steps : List Step) : (s.afterAll steps).transport = s.transport := by
  rw [afterAll_eq]

/-- **Sends that write only some of the bytes**, over every run of steps.

Over a socket that never waits a session does not notice. Where no send fails, it has step by step the
outcomes, the receives and the delays that it has with any other numbers of written bytes, such as all at once,
and each request is written as it is. Where a send fails, the request is written up to there, and nothing is
received. That too few bytes were written is never complained of.

Over a socket that waits a session complains if the one send of a step reports another number of bytes than its
request has, with both numbers, and then only; nothing follows that send. -/
theorem partial_writes (gateway : Address) (timeout maxAttempts : Value) (backoff : Option Schedule)
    (steps : List Step) (w : World) :
    (let s : Session := ⟨.polled timeout, gateway, maxAttempts, backoff⟩
      let before (i : Nat) : World := worldAfter .async s (steps.take i) w
      (w.Unfailing →
        (∀ v : World, v.Unfailing → v.recvs = w.recvs → v.timer = w.timer →
          List.Forall₂ (fun r r' : Record => r.outcome = r'.outcome ∧ SameButPieces r.world r'.world)
            (runSteps .async s steps w) (runSteps .async s steps v)) ∧
        ∀ (i : Nat) (step : Step) (request : Bytes) (r : Record), steps[i]? = some step →
          step.request? = some (.ok request) → (runSteps .async s steps w)[i]? = some r →
          r.written (before i).sends = request) ∧
      ∀ (i : Nat) (step : Step) (r : Record), steps[i]? = some step → (runSteps .async s steps w)[i]? = some r →
        (∀ n k, r.outcome ≠ .error (.shortWrite n k)) ∧
        ∀ request, step.request? = some (.ok request) → Delivers (before i).sends request r) ∧
    (let s : Session := ⟨.waiting, gateway, maxAttempts, backoff⟩
      let before (i : Nat) : World := worldAfter .blocking s (steps.take i) w
      ∀ (i : Nat) (step : Step) (r : Record), steps[i]? = some step →
        (runSteps .blocking s steps w)[i]? = some r → ∀ (n : Int) (k : Nat),
          (r.outcome = .error (.shortWrite n k) ↔ ∃ request, step.request? = some (.ok request) ∧
            ((before i).send request).1 = .ok n ∧ n ≠ request.length ∧ k = request.length) ∧
          (r.outcome = .error (.shortWrite n k) →
            (∃ request, step.request? = some (.ok request) ∧ r.world.calls = [.send request]) ∧
            (Fault.shortWrite n k).complaint? = some (.ofKind .networkFailure "Short write to gateway"
              (.table [("written", .whole n), ("expected", .whole k)]) .null))) := by
  refine ⟨?_, ?_⟩
  · intro s before
    have delivers {i : Nat} {step : Step} {request : Bytes} {r : Record} (there : steps[i]? = some step)
        (asked : step.request? = some (.ok request)) (recorded : (runSteps .async s steps w)[i]? = some r) :
        Delivers (before i).sends request r := by
      rw [eq_record there recorded]
      exact record_delivers (transport_afterAll s _) asked .async _
    have respected : Respected SameButPieces s.transport := polled_respected timeout
    have untraced ⦃u v : World⦄ (same : SameButPieces u v) : SameButPieces u.untraced v.untraced :=
      same.untraced
    refine ⟨fun unfailing => ⟨fun v unfailing' recvs timer => ?_, fun i step request r there asked recorded => ?_⟩,
      fun i step r there recorded => ⟨fun n k complained => ?_, fun request asked => ?_⟩⟩
    · have same : SameButPieces w.untraced v.untraced :=
        ⟨unfailing, unfailing', recvs.symm, timer.symm, rfl, rfl, rfl⟩
      exact runSteps_blind respected untraced .async steps same
    · have same : SameButPieces w.untraced w.untraced := ⟨unfailing, unfailing, rfl, rfl, rfl, rfl, rfl⟩
      have kept := worldAfter_blind respected untraced .async (steps.take i) same
      exact (delivers there asked recorded).whole fun f failing =>
        kept.unfailing f (List.mem_of_mem_take failing)
    · rw [eq_record there recorded, record, perform_eq, step_eq_shortWrite_iff] at complained
      obtain ⟨request, -, sent, other, -⟩ := complained
      rw [transport_afterAll, Transport.send_polled] at sent
      split at sent <;> cases sent
      exact other rfl
    · exact delivers there asked recorded
  · intro s before i step r there recorded n k
    have waiting : (s.afterAll (steps.take i)).transport = .waiting := transport_afterAll s _
    rw [eq_record there recorded, record, perform_eq]
    refine ⟨?_, fun complained => ⟨?_, rfl⟩⟩
    · rw [step_eq_shortWrite_iff, waiting]
      simp only [Transport.send, World.send_untraced, before]
    · obtain ⟨request, asked, left⟩ := world_of_shortWrite complained
      refine ⟨request, asked, ?_⟩
      rw [left, Transport.send_calls, waiting]
      rfl

/-- A request for a mapping that is written in three pieces, and one for the public address, of which a socket
that waits writes one byte. -/
theorem partial_writes_pieces :
    let steps : List Step := [.sendMapping (.known .udp) (.whole 80) (.whole 8080) (.whole 60), .publicAddress]
    let w : World := {
      sends := [.count 5, .count 0, .count 7]
      recvs := [.datagram [0, 128, 0, 0, 0, 0, 0, 9, 10, 1, 2, 3]] }
    let short : World := { w with sends := [.full, .count 1] }
    let polled : Session := ⟨.polled standardTimeout, ⟨10, 0, 0, 1⟩, .whole 2, none⟩
    let waiting : Session := ⟨.waiting, ⟨10, 0, 0, 1⟩, .whole 2, none⟩
    w.Unfailing ∧
      List.Forall₂ (fun r r' : Record => r.outcome = r'.outcome ∧ SameButPieces r.world r'.world)
        (runSteps .async polled steps w) (runSteps .async polled steps { w with sends := [] }) ∧
      (∃ r, (runSteps .async polled steps w)[0]? = some r ∧
        r.pieces = [[0, 1, 0, 0, 0, 80, 31, 144, 0, 0, 0, 60], [80, 31, 144, 0, 0, 0, 60],
          [80, 31, 144, 0, 0, 0, 60]] ∧
        r.written w.sends = [0, 1, 0, 0, 0, 80, 31, 144, 0, 0, 0, 60]) ∧
      ∃ r request, (runSteps .blocking waiting steps short)[1]? = some r ∧
        r.outcome = .error (.shortWrite 1 2) ∧ r.world.calls = [.send request] := by
  intro steps w short polled waiting
  have unfailing : w.Unfailing := by simp [World.Unfailing, w]
  have whole : World.Unfailing { w with sends := [] } := by simp [World.Unfailing]
  obtain ⟨⟨unnoticed, -⟩, -⟩ := partial_writes ⟨10, 0, 0, 1⟩ standardTimeout (.whole 2) none steps w
  obtain ⟨-, noticed⟩ := partial_writes ⟨10, 0, 0, 1⟩ standardTimeout (.whole 2) none steps short
  obtain ⟨same, written⟩ := unnoticed unfailing
  have complained : ((runSteps .blocking waiting steps short)[1]?.map Record.outcome) =
      some (.error (.shortWrite 1 2)) := rfl
  obtain ⟨r, recorded, outcome⟩ := Option.map_eq_some_iff.mp complained
  obtain ⟨⟨request, -, calls⟩, -⟩ := (noticed 1 _ r rfl recorded 1 2).2 outcome
  exact ⟨unfailing, same _ whole rfl rfl, ⟨_, rfl, rfl, written 0 _ _ _ rfl rfl rfl⟩,
    r, request, recorded, outcome, calls⟩

end Session

end PortMap
