import PortMap.Proofs.Session.Answer
import PortMap.Proofs.Session.Retry
import PortMap.Proofs.Session.Shape
import PortMap.Proofs.Wire.Refusal
import PortMap.Proofs.Wire.ReplyRoundTrip

/-!
# Exchanges with a gateway that conforms

A gateway makes its reply from the bytes of the request: the opcode is that of the request with its
highest bit set, and the private port is copied. This module shows that such a reply is understood: over
every transport, and after failed receives that leave an attempt, the exchange ends with what the gateway
has said.

The two sides meet at the bytes of the request. `grantTo` and `addressTo` are what the gateway makes of
them; `decode_grantTo`, `decode_addressTo` and `decode_headTo` tell what this reads as. `Hears` is what
the session receives; `step_completes` tells that its step ends with what that reads as, by an induction
on the failures before it (`readFrom_hears`).

* `exchange_complete` — **both together, for mappings and for the public address.**
-/

namespace PortMap

open Wire

namespace Wire

/-! ### Requests are no replies -/

/-- What reads as a request has the version and one of the opcodes of a request. -/
theorem opcode_of_decode {d : Bytes} {r : Request} (h : Request.decode d = .ok r) :
    get8 d 0 = version ∧ (get8 d 1 = 0 ∨ get8 d 1 = 1 ∨ get8 d 1 = 2) := by
  unfold Request.decode at h
  grind

/-- What reads as a request is refused as a reply, for its opcode. -/
theorem decode_of_request {d : Bytes} {r : Request} (h : Request.decode d = .ok r) :
    Reply.decode d = .error (.opcode (get8 d 1)) := by
  obtain ⟨hv, ho⟩ := opcode_of_decode h
  rw [Reply.decode_eq_error_iff, ← get8_area d (show 1 < 16 by decide)]
  refine .opcode ((get8_area d (by decide)).trans hv) ?_
  rw [get8_area d (by decide)]
  rcases ho with ho | ho | ho <;> rw [ho] <;> decide

/-! ### The gateway -/

/-- What every reply to a request begins with. -/
def headTo (request : Bytes) (code : UInt16) (epoch : UInt32) : Bytes :=
  [version, get8 request 1 + 128] ++ put16 code.toNat ++ put32 epoch.toNat

/-- The reply to a mapping request, with the private port of that request. -/
def grantTo (request : Bytes) (code : UInt16) (epoch : UInt32) (publicPort : UInt16)
    (lifetime : UInt32) : Bytes :=
  headTo request code epoch ++ [get8 request 4, get8 request 5] ++ put16 publicPort.toNat
    ++ put32 lifetime.toNat

/-- The reply to the question for the public address. -/
def addressTo (request : Bytes) (code : UInt16) (epoch : UInt32) (address : Address) : Bytes :=
  headTo request code epoch ++ put32 address.toNat

/-- A reply to a mapping request reads as a mapping with the protocol and the private port of that
request. -/
theorem decode_grantTo (p : Protocol) (x y : UInt16) (z : UInt32) (epoch : UInt32) (q : UInt16)
    (t : UInt32) (more : Bytes) :
    Reply.decode (grantTo (Request.mapping p x y z).encode 0 epoch q t ++ more) =
      .ok (.mapping p epoch x q t) := by
  have message : grantTo (Request.mapping p x y z).encode 0 epoch q t =
    (Reply.mapping p epoch x q t).encode := rfl
  rw [message, Reply.decode_encode_append]

theorem decode_addressTo (epoch : UInt32) (address : Address) (more : Bytes) :
    Reply.decode (addressTo Request.publicAddress.encode 0 epoch address ++ more) =
      .ok (.publicAddress epoch address) := by
  have message : addressTo Request.publicAddress.encode 0 epoch address =
    (Reply.publicAddress epoch address).encode := (Reply.encode_publicAddress epoch address).symm
  rw [message, Reply.decode_encode_append]

/-- A reply to a request with a result code other than zero reads as a refusal with that code. -/
theorem decode_headTo (r : Request) {code : UInt16} (h : code ≠ 0) (epoch : UInt32) (more : Bytes) :
    Reply.decode (headTo r.encode code epoch ++ more) = .error (.refused code) := by
  obtain ⟨-, opcode⟩ := opcode_of_decode (List.append_nil r.encode ▸ Request.decode_encode_append r [])
  rw [Reply.decode_eq_error_iff]
  refine .code (get8_area _ (by decide)) ?_ ?_ h
  · rw [get8_area _ (by decide)]
    change 128 ≤ get8 r.encode 1 + 128 ∧ get8 r.encode 1 + 128 ≤ 130
    rcases opcode with ho | ho | ho <;> rw [ho] <;> decide
  · rw [get16, get8_area _ (by decide), get8_area _ (by decide)]
    exact (put16_eq_iff code.toNat_lt _ 2).mp rfl

end Wire

namespace Net

/-! ### Receives that are given time -/

/-- Receives over a transport are given time: if it has a deadline, that has not passed at the start. -/
def Transport.Listens : Transport → Prop
  | .direct _ | .waiting => True
  | .polled timeout => deadlineAtStart timeout = .ok false

/-- What a receive gives of an outcome: of a datagram, as much as a reply is read from; for a failure, one
that is of the operating system if that is. -/
inductive Conveys : RecvOutcome → Except Failure Bytes → Prop
  /-- A datagram. -/
  | datagram {d d' : Bytes} : Reply.decode d' = Reply.decode d → Conveys (.datagram d) (.ok d')
  /-- A failure. -/
  | failure {f f' : Failure} : f'.isOs = f.isOs → Conveys (.fails f) (.error f')

variable {w : World} {o : RecvOutcome} {rest : List RecvOutcome}

theorem World.recv_conveys (hw : w.recvs = o :: rest) (size : Int) :
    Conveys o (w.recv size).1 ∧ (w.recv size).2.recvs = rest := by
  obtain ⟨sends, recvs, _⟩ := w
  cases hw
  cases o with
  | datagram d => exact ⟨.datagram rfl, rfl⟩
  | fails f => exact ⟨.failure rfl, rfl⟩

theorem World.recvCut_conveys (hw : w.recvs = o :: rest) :
    Conveys o (w.recvCut areaSize).1 ∧ (w.recvCut areaSize).2.recvs = rest := by
  obtain ⟨conveyed, left⟩ := World.recv_conveys hw areaSize
  unfold World.recvCut
  rcases h : w.recv areaSize with ⟨f | d, u⟩ <;> rw [h] at conveyed left
  · exact ⟨conveyed, left⟩
  · cases conveyed with
    | datagram same => exact ⟨.datagram ((decode_take d).trans same), left⟩

theorem World.recvBefore_conveys {timeout : Value} (h : deadlineAtStart timeout = .ok false)
    (hw : w.recvs = o :: rest) :
    Conveys o (w.recvBefore timeout areaSize).1 ∧ (w.recvBefore timeout areaSize).2.recvs = rest := by
  obtain ⟨conveyed, left⟩ := World.recvCut_conveys hw
  unfold World.recvBefore
  rw [h]
  rcases h : w.recvCut areaSize with ⟨f | d, u⟩ <;> rw [h] at conveyed left
  · cases conveyed with
    | failure same =>
      refine ⟨.failure ?_, left⟩
      rw [← same]
      -- a failure that says that nothing happened in time is replaced by one that says so too
      split
      · rw [Failure.isOs, Failure.isOs, ‹f.kind = .timeout›]
        rfl
      · rfl
  · exact ⟨conveyed, left⟩

theorem Transport.recv_conveys {t : Transport} (h : t.Listens) (hw : w.recvs = o :: rest) :
    Conveys o (t.recv areaSize w).1 ∧ (t.recv areaSize w).2.recvs = rest := by
  cases t with
  | direct closing => exact World.recv_conveys hw areaSize
  | waiting => exact World.recvCut_conveys hw
  | polled timeout => exact World.recvBefore_conveys h hw

end Net

namespace Session

open Net

variable {manner : Manner} {s : Session} {w : World} {failures : List Failure} {d : Bytes}
  {rest : List RecvOutcome}

/-! ### What a session hears -/

/-- Of the receives to come in a world, a session hears a datagram, after failures that it passes over. -/
structure Hears (manner : Manner) (s : Session) (w : World) (failures : List Failure) (d : Bytes)
    (rest : List RecvOutcome) : Prop where
  /-- Its receives are given time. -/
  listens : s.transport.Listens
  /-- The failures are of the operating system. -/
  os : ∀ f ∈ failures, f.isOs
  /-- They leave an attempt. -/
  attempts : failures.length < s.mostReceives
  /-- The delays after them do not raise: they have values, and no sleep is refused. -/
  delays : ∀ j < failures.length, Passes manner w.timer s.backoff j
  /-- Then comes the datagram. -/
  script : w.recvs = failures.map .fails ++ .datagram d :: rest

/-- The loop of receives ends with what the datagram says after the failures. -/
theorem readFrom_hears (listens : s.transport.Listens) {left attempt : Nat}
    (os : ∀ f ∈ failures, f.isOs) (attempts : failures.length < left)
    (delays : ∀ j < failures.length, Passes manner w.timer s.backoff (attempt + j))
    (script : w.recvs = failures.map .fails ++ .datagram d :: rest) :
    ∃ u, Direct.readFrom manner s left attempt w = (readReply d, u) ∧ u.recvs = rest := by
  induction failures generalizing left attempt w with
  | nil =>
    obtain ⟨left, rfl⟩ := Nat.exists_eq_add_one.mpr attempts
    obtain ⟨conveyed, taken⟩ := Transport.recv_conveys listens script
    have received := Exchange.act_apply (s.transport.recv areaSize) w
    generalize (s.transport.recv areaSize w).1 = r at conveyed received
    cases conveyed with
    | datagram same => exact ⟨_, by rw [readFrom_of_received received, readReply, same, readReply], taken⟩
  | cons f failures ih =>
    obtain ⟨left, rfl⟩ : ∃ n, left = n + 2 := ⟨left - 2, by simp at attempts; omega⟩
    obtain ⟨conveyed, taken⟩ := Transport.recv_conveys listens script
    have received := Exchange.act_apply (s.transport.recv areaSize) w
    generalize (s.transport.recv areaSize w).1 = r at conveyed received
    cases conveyed with
    | failure same =>
      have timer : (s.transport.recv areaSize w).2.timer = w.timer := s.transport.recv_timer areaSize w
      have waits : Passes manner w.timer s.backoff attempt := delays 0 (by simp)
      rw [readFrom_of_failed received (same.trans (os f (by simp))), if_pos (by omega),
        Exchange.bind_ok (pause_eq (timer ▸ waits))]
      refine ih (fun f hf => os f (by simp [hf])) (by simpa using attempts) (fun j hj => ?_) taken
      rw [Nat.add_assoc, Nat.add_comm 1 j]
      exact timer ▸ delays (j + 1) (by simpa using hj)

theorem read_hears (h : Hears manner s w failures d rest) :
    ∃ u, Direct.read manner s w = (readReply d, u) ∧ u.recvs = rest := by
  have counted : Exchange.settle s.attempts w = (.ok s.mostReceives, w) := by
    have positive := h.attempts
    rw [Exchange.settle_apply]
    unfold mostReceives Session.attempts at *
    cases hm : s.maxAttempts.wholeNumber? with
    | none => simp [hm] at positive
    | some m => rfl
  rw [Direct.read, Exchange.bind_ok counted]
  exact readFrom_hears h.listens h.os h.attempts (by simpa using h.delays) h.script

/-! ### Steps -/

/-- A step that has a request hands it over before anything else. -/
theorem step_sends_first {step : Step} {request : Bytes} (h : step.request? = some (.ok request))
    (w : World) : w.calls ++ [.send request] <+: (Direct.step manner s step w).2.calls := by
  have first := (s.transport.send_frame request w).2
  rw [step_eq_asking s h, asking_ok]
  obtain ⟨f, -, hw⟩ | ⟨n, -, -, hw⟩ | ⟨-, hw⟩ := write_cases s request w
  · rwa [Exchange.bind_error hw]
  · rwa [Exchange.bind_error hw]
  · rw [Exchange.bind_ok hw]
    obtain ⟨n, -, calls⟩ := following_receives s step
      ((s.transport.send request w).2.note (s.sentNotice request))
    rw [calls]
    exact first.trans (List.prefix_append _ _)

/-- What a step answers to a reply. -/
def Step.verdict : Step → Reply → Except Fault Answer
  | .publicAddress, reply => (expectAddress reply).map .ofAddress
  | .mapPort .., reply => (expectMapping reply).map .ofMapping
  | .unmapPort protocol _, reply => do
    let m ← expectMapping reply
    let _ ← protocolName protocol
    return .ofMapping m
  | _, _ => .ok .nothing

theorem conclude_apply (step : Step) (reply : Reply) (u : World) :
    (step.conclude reply u).1 = step.verdict reply ∧ (step.conclude reply u).2.recvs = u.recvs := by
  cases step with
  | publicAddress => cases reply <;> exact ⟨rfl, rfl⟩
  | mapPort => cases reply <;> exact ⟨rfl, rfl⟩
  | unmapPort c a => cases reply <;> cases c <;> exact ⟨rfl, rfl⟩
  | _ => exact ⟨rfl, rfl⟩

/-- How an exchange ends in which a datagram is heard. -/
structure Completes (before : World) (request d : Bytes) (rest : List RecvOutcome)
    (verdict : Reply → Except Fault Answer) (done : Except Fault Answer × World) : Prop where
  /-- The request was handed over before anything else. -/
  first : before.calls ++ [.send request] <+: done.2.calls
  /-- What the datagram reads as decides. -/
  outcome : done.1 = readReply d >>= verdict
  /-- Nothing was received after the datagram. -/
  rest : done.2.recvs = rest

/-- A step whose request is written in full ends with what it makes of the datagram that it hears. -/
theorem step_completes {step : Step} {request : Bytes} (asked : step.request? = some (.ok request))
    (reads : step.following manner s = Direct.read manner s >>= step.conclude)
    (sent : (s.transport.send request w).1 = .ok request.length)
    (h : Hears manner s w failures d rest) :
    Completes w request d rest step.verdict (Direct.step manner s step w) := by
  have heard : Hears manner s ((s.transport.send request w).2.note (s.sentNotice request)) failures d rest :=
    { h with
      delays := fun j hj => (s.transport.send_timer request w).symm ▸ h.delays j hj
      script := (s.transport.send_recvs request w).trans h.script }
  obtain ⟨u, hu, taken⟩ := read_hears heard
  have ended : Direct.step manner s step w =
      match readReply d with
      | .ok r => step.conclude r u
      | .error e => (.error e, u) := by
    rw [step_eq_asking s asked, asking_ok, Exchange.bind_ok (write_of_sent sent), reads,
      Exchange.bind_apply, hu]
    cases readReply d <;> rfl
  refine ⟨step_sends_first asked w, ?_, ?_⟩ <;> rw [ended]
  · cases readReply d with
    | ok r => exact (conclude_apply step r u).1
    | error e => rfl
  · cases readReply d with
    | ok r => exact (conclude_apply step r u).2.trans taken
    | error e => exact taken

/-! ### Exchanges -/

/-- An outcome is a fault with such a complaint. -/
def FailsWith (P : Complaint → Prop) (outcome : Except Fault Answer) : Prop :=
  ∃ f c, outcome = .error f ∧ f.complaint? = some c ∧ P c

/-- A complaint is about a reply that is not of the kind that was expected. -/
def ReplyKind.Unexpected (received : ReplyKind) (c : Complaint) : Prop :=
  c.kind = .unsupportedOpcode ∧ c.details = .table [("response", .text received.name)]

section Completes

variable {request : Bytes} {step : Step} {done : Except Fault Answer × World}

theorem Completes.told {reply : Reply} (h : Completes w request d rest step.verdict done)
    (hd : Reply.decode d = .ok reply) : done.1 = step.verdict reply := by
  rw [h.outcome, readReply, hd]
  rfl

theorem Completes.refused {code : UInt16} (h : Completes w request d rest step.verdict done)
    (hd : Reply.decode d = .error (.refused code)) (hc : code ≠ 0) :
    FailsWith (·.Tells code.toNat) done.1 := by
  refine ⟨.reply (.refused code), _, ?_, rfl, ?_⟩
  · rw [h.outcome, readReply, hd]
    rfl
  · exact Complaint.tells_ofCode fun zero => hc (UInt16.toNat_inj.mp zero)

end Completes

/-- **Whatever a gateway that conforms replies to a request is understood.** A session, in either manner
and over every transport, writes a request in full and hears a datagram, after failed receives that leave
an attempt. If the datagram is the reply that is made of the bytes of the request, with whatever follows,
the exchange ends with what it grants or tells: with the protocol and the private port that were asked
for, or with the complaint of its result code. A reply of the other kind is complained about. The bytes of
every request read as that request, and nothing that reads as a request reads as a reply. -/
theorem exchange_complete :
    (∀ (manner : Manner) (s : Session) (w : World) (failures : List Failure) (d : Bytes)
      (rest : List RecvOutcome), Hears manner s w failures d rest →
      (∀ (p : Protocol) (a b l : Value) (x y : UInt16) (z : UInt32),
        a.wholeNumber? = some (x.toNat : Int) → b.wholeNumber? = some (y.toNat : Int) →
        l.wholeNumber? = some (z.toNat : Int) →
        ∃ request, mappingRequest (.known p) a b l = .ok request ∧
          Request.decode request = .ok (.mapping p x y z) ∧
          ((s.transport.send request w).1 = .ok request.length →
            let done := (Step.mapPort (.known p) a b l).perform manner s w
            w.calls ++ [.send request] <+: done.2.calls ∧ done.2.recvs = rest ∧
            (∀ epoch q t more, d = grantTo request 0 epoch q t ++ more →
              done.1 = .ok (.reply (.mapping p epoch x q t))) ∧
            (∀ code epoch q t more, code ≠ 0 → d = grantTo request code epoch q t ++ more →
              FailsWith (·.Tells code.toNat) done.1) ∧
            (∀ epoch address, Reply.decode d = .ok (.publicAddress epoch address) →
              FailsWith ReplyKind.publicAddress.Unexpected done.1))) ∧
      ((s.transport.send Request.publicAddress.encode w).1 =
          .ok Request.publicAddress.encode.length →
        let request := Request.publicAddress.encode
        let done := Step.publicAddress.perform manner s w
        w.calls ++ [.send request] <+: done.2.calls ∧ done.2.recvs = rest ∧
        (∀ epoch address more, d = addressTo request 0 epoch address ++ more →
          done.1 = .ok (.reply (.publicAddress epoch address))) ∧
        (∀ code epoch address more, code ≠ 0 → d = addressTo request code epoch address ++ more →
          FailsWith (·.Tells code.toNat) done.1) ∧
        (∀ p epoch x q t, Reply.decode d = .ok (.mapping p epoch x q t) →
          FailsWith ReplyKind.mapping.Unexpected done.1))) ∧
    (∀ (r : Request) (more : Bytes), Request.decode (r.encode ++ more) = .ok r) ∧
    (∀ d r, Request.decode d = .ok r → Reply.decode d = .error (.opcode (get8 d 1))) := by
  refine ⟨fun manner s w failures d rest h => ⟨?_, ?_⟩, Request.decode_encode_append,
    fun d r => decode_of_request⟩
  · intro p a b l x y z ha hb hl
    have hreq : mappingRequest (.known p) a b l = .ok (Request.mapping p x y z).encode :=
      (mappingRequest_eq_ok_iff _ a b l _).mpr ⟨x, y, z, ha, hb, hl, rfl⟩
    refine ⟨_, hreq, (decode_eq_mapping_iff _ p x y z).mpr (unreserved_encode p x y z), fun sent => ?_⟩
    simp only [perform_eq]
    have asked : (Step.mapPort (.known p) a b l).request? = some (.ok _) := congrArg some hreq
    have ends := step_completes asked (by rfl) sent h
    refine ⟨ends.first, ends.rest, ?_, ?_, ?_⟩
    · rintro epoch q t more rfl
      exact ends.told (decode_grantTo p x y z epoch q t more)
    · rintro code epoch q t more hc rfl
      refine ends.refused ?_ hc
      simp only [grantTo, List.append_assoc]
      exact decode_headTo _ hc epoch _
    · intro epoch address hd
      exact ⟨_, _, ends.told hd, rfl, rfl, rfl⟩
  · intro sent
    simp only [perform_eq]
    have asked : Step.publicAddress.request? = some (.ok Request.publicAddress.encode) := rfl
    have ends := step_completes asked (by rfl) sent h
    refine ⟨ends.first, ends.rest, ?_, ?_, ?_⟩
    · rintro epoch address more rfl
      exact ends.told (decode_addressTo epoch address more)
    · rintro code epoch address more hc rfl
      refine ends.refused ?_ hc
      simp only [addressTo, List.append_assoc]
      exact decode_headTo _ hc epoch _
    · intro p epoch x q t hd
      exact ⟨_, _, ends.told hd, rfl, rfl, rfl⟩

/-- Over a socket that never waits, which takes the request in two pieces, nothing arrives at the first of
three attempts, the second one is refused, and the third one brings the mapping that was asked for, with a
byte that means nothing. -/
theorem exchange_complete_third :
    let s : Session := ⟨.polled (.whole 5), ⟨10, 0, 0, 1⟩, .whole 3, some ⟨.whole 1, .whole 2, .whole 9⟩⟩
    let request : Bytes := [0, 2, 0, 0, 1, 0xbb, 0, 0, 0, 0, 0x0e, 0x10]
    let failures : List Failure := [World.silence, ⟨.refused, "Connection refused"⟩]
    let d : Bytes := grantTo request 0 9 60000 1800 ++ [7]
    let w : World := { sends := [.count 5], recvs := failures.map .fails ++ [.datagram d] }
    Hears .async s w failures d [] ∧
      ((Step.mapPort (.known .tcp) (.whole 443) (.whole 0) (.whole 3600)).perform .async s w).1 =
        .ok (.reply (.mapping .tcp 9 443 60000 1800)) := by
  intro s request failures d w
  have hears : Hears .async s w failures d [] := by
    refine ⟨rfl, by decide, by decide, fun j hj => ?_, rfl⟩
    obtain rfl | rfl : j = 0 ∨ j = 1 := by
      have : failures.length = 2 := rfl
      omega
    all_goals exact ⟨rfl, rfl⟩
  obtain ⟨request', hreq, -, completes⟩ := (exchange_complete.1 .async s w failures d [] hears).1 .tcp
    (.whole 443) (.whole 0) (.whole 3600) 443 0 3600 rfl rfl rfl
  have same : request' = request := Except.ok.inj (hreq.symm.trans rfl)
  subst same
  obtain ⟨-, -, granted, -⟩ := completes rfl
  exact ⟨hears, granted 9 60000 1800 [7] rfl⟩

end Session

end PortMap
