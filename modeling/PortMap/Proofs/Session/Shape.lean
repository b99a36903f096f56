import PortMap.Proofs.Net.Transport
import PortMap.Proofs.Session.Run
import PortMap.Proofs.Session.Simulation
import PortMap.Proofs.Wire.RoundTrip

/-!
# The calls of a step

Which calls a step makes, in every session and after whatever steps: at most one send, and receives only
once its request is written in full.

## The argument

`OnlyReceives k x` says that an exchange calls nothing but at most `k` receives. It holds of each single
act, it adds up through sequencing (`OnlyReceives.bind`), and so the loop of receives needs no more than
the attempts that are left (`readFrom_receives`). Every step that sends is its request, one write, and such
an exchange (`step_eq_asking`, `following_receives`); what a write calls is told by `write_cases`.

## What is proved

* `step_of_request` — the three ways in which a step with a request goes on after its one send.
* `step_shape` — the calls of a step have the shape `Shape`, in every session and world.
* `afterAll_eq` — no step changes a session but the two that are there for it.
* `runSteps_shape` — **both together, for every step of a run**, and that a run sends each request
  once.
-/

namespace PortMap

open Wire

namespace Session

open Net

variable {α β : Type}

/-! ### Exchanges that only receive -/

/-- An exchange calls nothing but receives, and at most so many. -/
def OnlyReceives (most : Nat) (x : Exchange α) : Prop :=
  ∀ w, ∃ n ≤ most, (x w).2.calls = w.calls ++ List.replicate n (.recv 16)

namespace OnlyReceives

variable {m k : Nat} {x : Exchange α}

theorem bind {f : α → Exchange β} (hx : OnlyReceives m x) (hf : ∀ a, OnlyReceives k (f a)) :
    OnlyReceives (m + k) (x >>= f) := by
  intro w
  obtain ⟨n, hn, hu⟩ := hx w
  rw [Exchange.bind_apply]
  rcases h : x w with ⟨e | a, u⟩ <;> rw [h] at hu
  · exact ⟨n, by omega, hu⟩
  · obtain ⟨n', hn', hv⟩ := hf a u
    refine ⟨n + n', by omega, ?_⟩
    rw [hv, hu, List.append_assoc, List.replicate_append_replicate]

theorem mono (h : OnlyReceives m x) (hmk : m ≤ k) : OnlyReceives k x := fun w =>
  let ⟨n, hn, hu⟩ := h w
  ⟨n, Nat.le_trans hn hmk, hu⟩

/-- What calls nothing may come first. -/
theorem bind_of_quiet {f : α → Exchange β} (hx : OnlyReceives 0 x) (hf : ∀ a, OnlyReceives k (f a)) :
    OnlyReceives k (x >>= f) :=
  (hx.bind hf).mono (Nat.le_of_eq (Nat.zero_add k))

theorem map (g : α → β) (h : OnlyReceives m x) : OnlyReceives m (g <$> x) := by
  intro w
  rw [Exchange.map_apply]
  exact h w

/-- An exchange that calls nothing. -/
theorem of_calls (h : ∀ w, (x w).2.calls = w.calls) : OnlyReceives 0 x := fun w =>
  ⟨0, Nat.le_refl _, by rw [h w, List.replicate_zero, List.append_nil]⟩

theorem settle (r : Except Fault α) : OnlyReceives 0 (Exchange.settle r) := of_calls fun _ => rfl

theorem note (n : Log.Notice) : OnlyReceives 0 (Exchange.note n) := of_calls fun _ => rfl

theorem sleep (manner : Manner) (d : Value) : OnlyReceives 0 (Exchange.sleep manner d) :=
  of_calls fun _ => by rw [Exchange.sleep_apply]; rfl

theorem pure (a : α) : OnlyReceives 0 (Pure.pure a : Exchange α) := of_calls fun _ => rfl

theorem throw (e : Fault) : OnlyReceives 0 (MonadExcept.throw e : Exchange α) := of_calls fun _ => rfl

theorem recv (t : Transport) : OnlyReceives 1 (Exchange.act (t.recv areaSize)) := fun w =>
  t.recv_calls areaSize w

end OnlyReceives

variable {manner : Manner} (s : Session)

theorem pause_receives (attempt : Nat) : OnlyReceives 0 (Direct.pause manner s attempt) := by
  unfold Direct.pause
  cases s.backoff with
  | none => exact .pure ()
  | some schedule => exact (OnlyReceives.settle _).bind_of_quiet fun d => .sleep manner d

/-- The loop receives no more often than it has attempts left. -/
theorem readFrom_receives (left attempt : Nat) :
    OnlyReceives left (Direct.readFrom manner s left attempt) := by
  induction left generalizing attempt with
  | zero => exact .throw _
  | succ left ih =>
    unfold Direct.readFrom
    rw [Nat.add_comm left 1]
    refine (OnlyReceives.recv s.transport).bind fun outcome => ?_
    cases outcome with
    | ok d => exact (OnlyReceives.settle _).mono (Nat.zero_le left)
    | error f =>
      simp only
      split
      · refine (OnlyReceives.note _).bind_of_quiet fun _ => ?_
        split
        · exact (pause_receives s attempt).bind_of_quiet fun _ => ih (attempt + 1)
        · exact ih (attempt + 1)
      · exact (OnlyReceives.throw _).mono (Nat.zero_le left)

/-- How many receives a session may attempt: none, if the number is negative, or is none. -/
def mostReceives : Nat := (s.maxAttempts.wholeNumber?.getD 0).toNat

theorem read_receives : OnlyReceives s.mostReceives (Direct.read manner s) := by
  unfold Direct.read attempts mostReceives
  cases s.maxAttempts.wholeNumber? with
  | none => exact (OnlyReceives.of_calls fun _ => rfl).mono (Nat.zero_le _)
  | some m => exact readFrom_receives s m.toNat 0

/-! ### Steps -/

/-- The message of the request that a step sends, or why it has none; nothing if it sends none. -/
def Step.request? : Step → Option (Except Fault Bytes)
  | .publicAddress | .sendPublicAddress => some (.ok Request.publicAddress.encode)
  | .mapPort protocol privatePort publicPort lifetime
  | .sendMapping protocol privatePort publicPort lifetime =>
    some (mappingRequest protocol privatePort publicPort lifetime)
  | .unmapPort protocol privatePort => some (mappingRequest protocol privatePort (.whole 0) (.whole 0))
  | _ => none

/-- How many receives a step may attempt. -/
def Step.mostReceives (step : Step) (s : Session) : Nat :=
  match step with
  | .publicAddress | .mapPort .. | .unmapPort .. | .read => s.mostReceives
  | _ => 0

/-- Sends a request, if it has a message, and goes on. -/
def asking (request : Except Fault Bytes) (rest : Exchange α) : Exchange α := do
  let d ← Exchange.settle request
  Direct.write s d
  rest

theorem asking_ok (d : Bytes) (rest : Exchange α) (w : World) :
    asking s (.ok d) rest w = (Direct.write s d >>= fun _ => rest) w := rfl

/-- Takes a reply for the mapping that was asked for. -/
def granting (reply : Reply) : Exchange Mapping := do
  let m ← Exchange.settle (expectMapping reply)
  Exchange.note (mappedNotice m.protocol m.privatePort m.publicPort m.lifetime)
  return m

/-- What a step makes of the reply to its request. -/
def Step.conclude : Step → Reply → Exchange Answer
  | .publicAddress => fun reply => Answer.ofAddress <$> Exchange.settle (expectAddress reply)
  | .mapPort .. => fun reply => Answer.ofMapping <$> granting reply
  | .unmapPort protocol privatePort => fun reply => do
    let m ← granting reply
    let name ← Exchange.settle (protocolName protocol)
    Exchange.note (deletedNotice name privatePort)
    return .ofMapping m
  | _ => fun _ => pure .nothing

/-- What a step does after its request was sent. -/
def Step.following (step : Step) (manner : Manner) (s : Session) : Exchange Answer :=
  match step with
  | .publicAddress | .mapPort .. | .unmapPort .. => Direct.read manner s >>= step.conclude
  | _ => pure .nothing

/-- A step that sends is its request, one write, and what follows. -/
theorem step_eq_asking {step : Step} {request : Except Fault Bytes} (h : step.request? = some request) :
    Direct.step manner s step = asking s request (step.following manner s) := by
  cases step with
  | publicAddress =>
    cases h
    simp only [Direct.step, Direct.publicAddress, Direct.sendPublicAddress, asking,
      Step.following, Step.conclude, map_bind]
    rfl
  | mapPort c a b l =>
    cases h
    simp only [Direct.step, Direct.mapPort, Direct.sendMapping, asking, Step.following,
      Step.conclude, granting, map_bind, bind_assoc, map_pure]
  | unmapPort c a =>
    cases h
    simp only [Direct.step, Direct.unmapPort, Direct.mapPort, Direct.sendMapping, asking,
      Step.following, Step.conclude, granting, map_bind, bind_assoc, map_pure, pure_bind]
  | sendPublicAddress =>
    cases h
    simp only [Direct.step, Direct.sendPublicAddress, asking, Step.following, map_eq_pure_bind]
    rfl
  | sendMapping c a b l =>
    cases h
    simp only [Direct.step, Direct.sendMapping, asking, Step.following, map_eq_pure_bind,
      bind_assoc]
  | _ => cases h

theorem conclude_receives (step : Step) (reply : Reply) : OnlyReceives 0 (step.conclude reply) := by
  have granted : OnlyReceives 0 (granting reply) :=
    (OnlyReceives.settle _).bind fun _ => (OnlyReceives.note _).bind fun _ => .pure _
  cases step with
  | publicAddress => exact (OnlyReceives.settle _).map _
  | mapPort => exact granted.map _
  | unmapPort =>
    exact granted.bind fun _ => (OnlyReceives.settle _).bind fun _ =>
      (OnlyReceives.note _).bind fun _ => .pure _
  | _ => exact .pure _

/-- What follows a request is nothing but receives. -/
theorem following_receives (step : Step) :
    OnlyReceives (step.mostReceives s) (step.following manner s) := by
  cases step with
  | publicAddress | mapPort | unmapPort => exact (read_receives s).bind (conclude_receives _)
  | _ => exact (OnlyReceives.pure _).mono (Nat.zero_le _)

/-! ### The shape of a step -/

/-- A fault that is told as a failure of the network. -/
def Fault.IsNetworkFailure (e : Fault) : Prop := ∃ c, e.complaint? = some c ∧ c.kind = .networkFailure

/-- What a step calls, with what comes of it, in a session and a world. -/
inductive Shape (s : Session) (w : World) (step : Step) : Except Fault Answer → List Call → Prop
  /-- A value does not fit its field, so that the request has no message. Nothing is called. -/
  | unwritten {f : FieldFault} : step.request? = some (.error (.field f)) →
      Shape s w step (.error (.field f)) []
  /-- The send fails, and nothing follows it. The failure is one of the network if the operating system
  reports it, and passes unchanged if not. -/
  | failed {d : Bytes} {f : Failure} {e : Fault} : step.request? = some (.ok d) →
      (s.transport.send d w).1 = .error f → (f.isOs → e.IsNetworkFailure) →
      (¬ f.isOs → e = .network f) → Shape s w step (.error e) (s.transport.handed w.sends d)
  /-- The send reports another number of bytes than the request has, and nothing follows it. -/
  | short {d : Bytes} {n : Int} {e : Fault} : step.request? = some (.ok d) →
      (s.transport.send d w).1 = .ok n → n ≠ d.length → e.IsNetworkFailure →
      Shape s w step (.error e) (s.transport.handed w.sends d)
  /-- The send reports all bytes of the request. Receives follow, no more of them than are allowed. -/
  | sent {d : Bytes} {n : Nat} {r : Except Fault Answer} : step.request? = some (.ok d) →
      (s.transport.send d w).1 = .ok d.length → n ≤ step.mostReceives s →
      Shape s w step r (s.transport.handed w.sends d ++ List.replicate n (.recv 16))
  /-- A step without a request receives, if it does anything to the transport, … -/
  | unasked {n : Nat} {r : Except Fault Answer} : step.request? = none → n ≤ step.mostReceives s →
      Shape s w step r (List.replicate n (.recv 16))
  /-- … or closes it. -/
  | closed {r : Except Fault Answer} : step = .close ∨ step = .context →
      Shape s w step r [.close]

variable {s} {w : World}

/-- How a write ends, and what it has called. -/
theorem write_cases (s : Session) (d : Bytes) (w : World) :
    (∃ f, (s.transport.send d w).1 = .error f ∧
      Direct.write s d w = (.error (if f.isOs then .sendFailed f.text else .network f),
        (s.transport.send d w).2)) ∨
    (∃ n, (s.transport.send d w).1 = .ok n ∧ n ≠ d.length ∧
      Direct.write s d w = (.error (.shortWrite n d.length), (s.transport.send d w).2)) ∨
    (s.transport.send d w).1 = .ok d.length ∧
      Direct.write s d w = (.ok (), (s.transport.send d w).2.note (s.sentNotice d)) := by
  have sent := Exchange.act_apply (s.transport.send d) w
  rcases h : s.transport.send d w with ⟨f | n, u⟩ <;> rw [h] at sent
  · refine .inl ⟨f, rfl, ?_⟩
    rw [Direct.write, Exchange.bind_ok sent]
    rfl
  · by_cases hn : n = d.length
    · refine .inr (.inr ⟨by rw [hn], ?_⟩)
      rw [Direct.write, Exchange.bind_ok sent, Exchange.bind_apply, Exchange.settle_apply, checkSent,
        if_pos hn]
      rfl
    · refine .inr (.inl ⟨n, rfl, hn, ?_⟩)
      rw [Direct.write, Exchange.bind_ok sent, Exchange.bind_apply, Exchange.settle_apply, checkSent,
        if_neg hn]

/-- A send that reports all bytes is all that a write needs. -/
theorem write_of_sent {d : Bytes} (sent : (s.transport.send d w).1 = .ok d.length) :
    Direct.write s d w = (.ok (), (s.transport.send d w).2.note (s.sentNotice d)) := by
  have ending := write_cases s d w
  rw [sent] at ending
  obtain ⟨f, hf, -⟩ | ⟨n, hn, other, -⟩ | ⟨-, hw⟩ := ending
  · cases hf
  · cases hn
    exact absurd rfl other
  · exact hw

/-- **How a step with a request begins**: its send fails, or writes another number of bytes, and the step ends;
or all bytes are written, and the step goes on. -/
theorem step_of_request {step : Step} {request : Bytes} (asked : step.request? = some (.ok request)) (w : World) :
    (∃ f, (s.transport.send request w).1 = .error f ∧
      Direct.step manner s step w = (.error (if f.isOs then .sendFailed f.text else .network f),
        (s.transport.send request w).2)) ∨
    (∃ n, (s.transport.send request w).1 = .ok n ∧ n ≠ request.length ∧
      Direct.step manner s step w = (.error (.shortWrite n request.length), (s.transport.send request w).2)) ∨
    (s.transport.send request w).1 = .ok request.length ∧
      Direct.step manner s step w =
        step.following manner s ((s.transport.send request w).2.note (s.sentNotice request)) := by
  rw [step_eq_asking s asked, asking_ok]
  obtain ⟨f, failed, written⟩ | ⟨n, sent, other, written⟩ | ⟨sent, written⟩ := write_cases s request w
  · exact .inl ⟨f, failed, Exchange.bind_error written _⟩
  · exact .inr (.inl ⟨n, sent, other, Exchange.bind_error written _⟩)
  · exact .inr (.inr ⟨sent, Exchange.bind_ok written _⟩)

/-- A step whose send fails ends with that. -/
theorem step_of_failed {step : Step} {request : Bytes} {f : Failure}
    (asked : step.request? = some (.ok request)) (failed : (s.transport.send request w).1 = .error f) :
    Direct.step manner s step w =
      (.error (if f.isOs then .sendFailed f.text else .network f), (s.transport.send request w).2) := by
  obtain ⟨f', failed', ended⟩ | ⟨n, sent, -⟩ | ⟨sent, -⟩ := step_of_request (s := s) asked w
  · cases failed.symm.trans failed'
    exact ended
  · cases failed.symm.trans sent
  · cases failed.symm.trans sent

/-- A step whose send reports another number of bytes ends with that. -/
theorem step_of_short {step : Step} {request : Bytes} {n : Int} (asked : step.request? = some (.ok request))
    (sent : (s.transport.send request w).1 = .ok n) (other : n ≠ request.length) :
    Direct.step manner s step w = (.error (.shortWrite n request.length), (s.transport.send request w).2) := by
  obtain ⟨f, failed, -⟩ | ⟨n', sent', -, ended⟩ | ⟨sent', -⟩ := step_of_request (s := s) asked w
  · cases sent.symm.trans failed
  · cases sent.symm.trans sent'
    exact ended
  · cases sent.symm.trans sent'
    exact absurd rfl other

theorem request?_eq_error {step : Step} {f : Fault} (h : step.request? = some (.error f)) :
    ∃ e, f = .field e := by
  have field {c : ProtocolChoice} {a b l : Value} (h : mappingRequest c a b l = .error f) :
      ∃ e, f = .field e :=
    let ⟨e, he, _⟩ := (mappingRequest_eq_error_iff c a b l f).mp h
    ⟨e, he⟩
  cases step with
  | mapPort | sendMapping | unmapPort => exact field (Option.some.inj h)
  | _ => cases h

/-- The shape of a step with a request. -/
theorem asking_shape {step : Step} {d : Bytes} (hd : step.request? = some (.ok d)) (hw : w.calls = [])
    {rest : Exchange Answer} (hrest : OnlyReceives (step.mostReceives s) rest) :
    Shape s w step (asking s (.ok d) rest w).1 (asking s (.ok d) rest w).2.calls := by
  have calls : (s.transport.send d w).2.calls = s.transport.handed w.sends d := by
    rw [s.transport.send_calls, hw, List.nil_append]
  rw [asking_ok]
  obtain ⟨f, hf, h⟩ | ⟨n, hn, hne, h⟩ | ⟨hn, h⟩ := write_cases s d w
  · rw [Exchange.bind_error h, calls]
    refine .failed hd hf (fun os => ?_) (fun other => if_neg other)
    rw [if_pos os]
    exact ⟨_, rfl, rfl⟩
  · rw [Exchange.bind_error h, calls]
    exact .short hd hn hne ⟨_, rfl, rfl⟩
  · rw [Exchange.bind_ok h]
    obtain ⟨n, most, hn'⟩ := hrest ((s.transport.send d w).2.note (s.sentNotice d))
    rw [hn']
    change Shape s w step _ ((s.transport.send d w).2.calls ++ _)
    rw [calls]
    exact .sent hd hn most

theorem close_shape {step : Step} (h : step = .close ∨ step = .context) (hw : w.calls = []) (a : Answer) :
    Shape s w step (((fun _ => a) <$> Direct.close s) w).1
      (((fun _ => a) <$> Direct.close s) w).2.calls := by
  have asked : step.request? = none := by rcases h with rfl | rfl <;> rfl
  rw [Exchange.map_apply, close_apply]
  cases s.transport.closing with
  | absent =>
    change Shape s w step _ w.calls
    rw [hw]
    exact .unasked asked (Nat.zero_le _)
  | immediate | awaited =>
    change Shape s w step _ (w.calls ++ [.close])
    rw [hw]
    exact .closed h

/-- **The calls of a step have this shape**, in every session and world. -/
theorem step_shape (manner : Manner) (s : Session) (step : Step) (hw : w.calls = []) :
    Shape s w step (Direct.step manner s step w).1 (Direct.step manner s step w).2.calls := by
  cases hreq : step.request? with
  | some request =>
    rw [step_eq_asking s hreq]
    cases request with
    | ok d => exact asking_shape hreq hw (following_receives s step)
    | error f =>
      obtain ⟨e, rfl⟩ := request?_eq_error hreq
      have refused : asking s (.error (.field e)) (step.following manner s) w = (.error (.field e), w) := rfl
      rw [refused, hw]
      exact .unwritten hreq
  | none =>
    cases step with
    | read =>
      obtain ⟨n, most, hn⟩ := (read_receives s).map Answer.reply w
      rw [Direct.step, hn, hw]
      exact .unasked rfl most
    | gateway | setAttempts | setBackoff =>
      change Shape s w _ _ w.calls
      rw [hw]
      exact .unasked rfl (Nat.zero_le _)
    | close => exact close_shape (.inl rfl) hw _
    | context => exact close_shape (.inr rfl) hw _
    | _ => cases hreq

/-! ### Runs -/

/-- The number of attempts that a step sets. -/
def Step.attempts? : Step → Option Value
  | .setAttempts n => some n
  | _ => none

/-- The delays that a step sets. -/
def Step.backoff? : Step → Option (Option Schedule)
  | .setBackoff b => some b
  | _ => none

/-- A session keeps its transport and its gateway, and has the number of attempts and the delays that were
set last. -/
theorem afterAll_eq (s : Session) (steps : List Step) :
    s.afterAll steps = { s with
      maxAttempts := (steps.filterMap Step.attempts?).getLastD s.maxAttempts
      backoff := (steps.filterMap Step.backoff?).getLastD s.backoff } := by
  induction steps generalizing s with
  | nil => rfl
  | cons step rest ih =>
    change (s.after step).afterAll rest = _
    rw [ih]
    cases step <;> simp only [after, Step.attempts?, Step.backoff?, List.filterMap_cons,
      List.getLastD_cons]

/-- The message that a step hands over to be sent. -/
def Step.message? (step : Step) : Option Bytes := step.request?.bind Except.toOption

/-- Over a transport that takes a request at once, a step hands over its request, once, or nothing. -/
theorem Shape.filterMap_bytes? {step : Step} {r : Except Fault Answer} {calls : List Call}
    (h : Shape s w step r calls) (hs : ∀ outcomes d, s.transport.handed outcomes d = [.send d]) :
    calls.filterMap Call.bytes? = step.message?.toList := by
  have receives (n : Nat) : (List.replicate n (Call.recv 16)).filterMap Call.bytes? = [] := by
    rw [List.filterMap_replicate_of_none rfl]
  cases h with
  | unwritten h => simp [Step.message?, h, Except.toOption]
  | failed h | short h => simp [Step.message?, h, hs, Call.bytes?, Except.toOption]
  | sent h => simp [Step.message?, h, hs, Call.bytes?, Except.toOption, receives]
  | unasked h => simp [Step.message?, h, receives]
  | closed h => rcases h with rfl | rfl <;> rfl

/-- A run hands over the requests of its steps, each of them once. -/
theorem flatMap_bytes?_runSteps (manner : Manner)
    (hs : ∀ outcomes d, s.transport.handed outcomes d = [.send d]) (steps : List Step) (w : World) :
    (runSteps manner s steps w).flatMap (fun r => r.world.calls.filterMap Call.bytes?) =
      steps.filterMap Step.message? := by
  induction steps generalizing s w with
  | nil => rfl
  | cons step rest ih =>
    have first := (step_shape manner s step (w := w.untraced) rfl).filterMap_bytes? hs
    have after : ∀ outcomes d, (s.after step).transport.handed outcomes d = [.send d] := by
      cases step <;> exact hs
    simp only [runSteps, List.flatMap_cons, perform_eq, first, ih after, List.filterMap_cons]
    cases step.message? <;> rfl

/-- **The calls of every step of a run**, after whatever steps. A step hands over its request, if it has
one with a message, and hands it over once; it receives only if that was written in full, and no more
often than its session allows. No step changes its session but the two that set the number of attempts
and the delays. -/
theorem runSteps_shape (manner : Manner) (s : Session) (steps : List Step) (w : World) :
    (∀ (i : Nat) (step : Step) (r : Record), steps[i]? = some step →
      (runSteps manner s steps w)[i]? = some r →
      Shape (s.afterAll (steps.take i)) (worldAfter manner s (steps.take i) w).untraced step r.outcome
        r.world.calls) ∧
    s.afterAll steps = { s with
      maxAttempts := (steps.filterMap Step.attempts?).getLastD s.maxAttempts
      backoff := (steps.filterMap Step.backoff?).getLastD s.backoff } ∧
    ((∀ timeout, s.transport ≠ .polled timeout) →
      (runSteps manner s steps w).flatMap (fun r => r.world.calls.filterMap Call.bytes?) =
        steps.filterMap Step.message?) := by
  refine ⟨fun i step r hi hr => ?_, afterAll_eq s steps, fun hs => ?_⟩
  · rw [getElem?_runSteps, hi, Option.map_some, Option.some.injEq] at hr
    subst hr
    simp only [record, perform_eq]
    exact step_shape manner _ step rfl
  · refine flatMap_bytes?_runSteps manner (fun outcomes d => ?_) steps w
    cases ht : s.transport with
    | direct | waiting => rfl
    | polled timeout => exact absurd ht (hs timeout)

/-- A request that does not fit its fields, one of which only five bytes are written, and one that is
answered at the second of two attempts. -/
theorem runSteps_shape_thrice :
    let s : Session := ⟨.direct .immediate, ⟨10, 0, 0, 1⟩, .whole 2, none⟩
    let steps : List Step := [.mapPort (.known .udp) (.whole 65536) (.whole 0) (.whole 60),
      .unmapPort (.known .tcp) (.whole 80), .publicAddress]
    let w : World := { sends := [.count 5], recvs := [.fails World.silence,
      .datagram [0, 128, 0, 0, 0, 0, 0, 9, 10, 1, 2, 3]] }
    ∃ r, (runSteps .async s steps w)[2]? = some r ∧
      Shape s (worldAfter .async s (steps.take 2) w).untraced .publicAddress r.outcome
        ([.send [0, 0]] ++ List.replicate 2 (.recv 16)) ∧
      steps.filterMap Step.message? = [[0, 2, 0, 0, 0, 80, 0, 0, 0, 0, 0, 0], [0, 0]] ∧
      (runSteps .async s steps w).flatMap (fun r => r.world.calls.filterMap Call.bytes?) =
        [[0, 2, 0, 0, 0, 80, 0, 0, 0, 0, 0, 0], [0, 0]] := by
  intro s steps w
  obtain ⟨shape, -, requests⟩ := runSteps_shape .async s steps w
  have messages : steps.filterMap Step.message? = [[0, 2, 0, 0, 0, 80, 0, 0, 0, 0, 0, 0], [0, 0]] := rfl
  refine ⟨_, rfl, shape 2 .publicAddress _ rfl rfl, messages, ?_⟩
  rw [← messages]
  exact requests (fun timeout h => by cases h)

end Session

end PortMap
