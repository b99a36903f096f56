import PortMap.Proofs.Net.Transport
import PortMap.Proofs.Session.Run
import PortMap.Proofs.Session.Simulation
import PortMap.Proofs.Wire.Reply

/-!
# Which datagram a granted mapping comes from

A session keeps nothing of its requests. What an exchange answers is what the first datagram tells that
arrives during it, be it an answer to its request or a late one to another. `Arrives` says which datagram
that is.

## What is proved

* `readFrom_eq_ok` — the loop of receives passes over failures of the operating system only, over every
  transport.
* `mapPort_eq_ok`, `unmapPort_eq_ok` — what lies behind a mapping that was granted, or deleted.
* `granted_iff_answers` — **when an answer belongs to its question**, in every run.
* `late_reply_granted` — a late reply is taken for the answer to another request.
-/

namespace PortMap

open Wire

namespace Net

/-- The first datagram among outcomes of receives, with failures of the operating system before it, and
the outcomes after it. -/
inductive Arrives (d : Bytes) (rest : List RecvOutcome) : List RecvOutcome → Prop
  /-- It is the first outcome. -/
  | now : Arrives d rest (.datagram d :: rest)
  /-- It comes after a failure. -/
  | later {f : Failure} {outcomes : List RecvOutcome} : f.isOs → Arrives d rest outcomes →
      Arrives d rest (.fails f :: outcomes)

/-! ### Receives -/

/-- What one receive may take from the outcomes to come, with what it gives and what it leaves. -/
inductive Takes : List RecvOutcome → Except Failure Bytes → List RecvOutcome → Prop
  /-- A datagram, of which it gives as much as a reply is read from. -/
  | datagram {d d' : Bytes} {rest : List RecvOutcome} : Reply.decode d' = Reply.decode d →
      Takes (.datagram d :: rest) (.ok d') rest
  /-- A failure, which is one of the operating system if it gives such a one. -/
  | failure {f f' : Failure} {rest : List RecvOutcome} : (f'.isOs → f.isOs) →
      Takes (.fails f :: rest) (.error f') rest
  /-- Nothing; it fails by itself. -/
  | nothing {f : Failure} {outcomes : List RecvOutcome} : Takes outcomes (.error f) outcomes

namespace Takes

variable {outcomes rest later : List RecvOutcome} {d d' : Bytes} {f f' : Failure}

theorem ok (h : Takes outcomes (.ok d) rest) (hd : Reply.decode d' = Reply.decode d) :
    Takes outcomes (.ok d') rest := by
  cases h with
  | datagram h => exact .datagram (hd.trans h)

theorem error (h : Takes outcomes (.error f) rest) (hf : f'.isOs → f.isOs) :
    Takes outcomes (.error f') rest := by
  cases h with
  | failure h => exact .failure (h ∘ hf)
  | nothing => exact .nothing

/-- A receive that gives a datagram took it from the first outcome. -/
theorem arrives (h : Takes outcomes (.ok d') rest) :
    ∃ d, Reply.decode d = Reply.decode d' ∧ Arrives d rest outcomes := by
  cases h with
  | @datagram d _ _ h => exact ⟨d, h.symm, .now⟩

/-- A receive that fails leaves the same datagram to arrive first. -/
theorem arrives_later (h : Takes outcomes (.error f) rest) (hf : f.isOs) (ha : Arrives d later rest) :
    Arrives d later outcomes := by
  cases h with
  | failure h => exact .later (h hf) ha
  | nothing => exact ha

end Takes

/-- A receive that gives `r` takes one world to the other; its call is noted, if it makes one. -/
def Receives (w : World) (r : Except Failure Bytes) (u : World) : Prop :=
  Takes w.recvs r u.recvs ∧ w.calls <+: u.calls

theorem World.recv_receives (w : World) (size : Int) :
    Receives w (w.recv size).1 (w.recv size).2 := by
  obtain ⟨sends, recvs, _⟩ := w
  rcases recvs with _ | ⟨d | f, rest⟩ <;> refine ⟨?_, List.prefix_append _ _⟩
  · exact .nothing
  · exact .datagram rfl
  · exact .failure id

theorem World.recvCut_receives (w : World) :
    Receives w (w.recvCut areaSize).1 (w.recvCut areaSize).2 := by
  have received := w.recv_receives areaSize
  unfold World.recvCut
  rcases h : w.recv areaSize with ⟨f | d, u⟩ <;> rw [h] at received
  · exact received
  · exact ⟨received.1.ok (decode_take d), received.2⟩

theorem World.recvBefore_receives (timeout : Value) (w : World) :
    Receives w (w.recvBefore timeout areaSize).1 (w.recvBefore timeout areaSize).2 := by
  have received := w.recvCut_receives
  unfold World.recvBefore
  rcases deadlineAtStart timeout with e | _ | _
  · exact ⟨.nothing, List.prefix_rfl⟩
  · rcases h : w.recvCut areaSize with ⟨f | d, u⟩ <;> rw [h] at received
    · refine ⟨received.1.error fun hf => ?_, received.2⟩
      split at hf
      · rw [Failure.isOs, ‹f.kind = .timeout›]
      · exact hf
    · exact received
  · exact ⟨.nothing, List.prefix_rfl⟩

/-- Over every transport a receive takes one outcome at most. -/
theorem Transport.recv_receives (t : Transport) (w : World) :
    Receives w (t.recv areaSize w).1 (t.recv areaSize w).2 := by
  cases t with
  | direct closing => exact w.recv_receives areaSize
  | waiting => exact w.recvCut_receives
  | polled timeout => exact w.recvBefore_receives timeout

end Net

namespace Session

open Net

variable {manner : Manner} {s : Session} {w u : World}

/-! ### Exchanges with an answer -/

theorem pause_frame {attempt : Nat} (h : Direct.pause manner s attempt w = (.ok (), u)) :
    u.recvs = w.recvs ∧ u.calls = w.calls := by
  unfold Direct.pause at h
  cases hb : s.backoff with
  | none =>
    simp only [hb, Exchange.pure_apply] at h
    cases h
    exact ⟨rfl, rfl⟩
  | some schedule =>
    simp only [hb, Exchange.bind_eq_ok, Exchange.settle_eq_ok, Exchange.sleep_eq_ok] at h
    obtain ⟨d, v, ⟨-, rfl⟩, -, rfl⟩ := h
    exact ⟨rfl, rfl⟩

/-- A request that was written was handed over; what is to be received is left. -/
theorem write_frame {request : Bytes} (h : Direct.write s request w = (.ok (), u)) :
    u.recvs = w.recvs ∧ w.calls ++ [.send request] <+: u.calls := by
  simp only [Direct.write, Exchange.bind_eq_ok, Exchange.act_eq_ok, Exchange.settle_eq_ok] at h
  obtain ⟨n, v, hsend, _, _, ⟨-, rfl⟩, hnote⟩ := h
  have frame := s.transport.send_frame request w
  rw [hsend] at frame
  cases hnote
  exact frame

theorem readReply_eq_ok {d : Bytes} {r : Reply} (h : readReply d = .ok r) : Reply.decode d = .ok r := by
  unfold readReply at h
  cases hd : Reply.decode d with
  | error e =>
    rw [hd] at h
    cases h
  | ok r' =>
    rw [hd] at h
    cases h
    rfl

/-- The loop of receives answers what the first datagram tells that arrives. -/
theorem readFrom_eq_ok {left attempt : Nat} {r : Reply}
    (h : Direct.readFrom manner s left attempt w = (.ok r, u)) :
    w.calls <+: u.calls ∧ ∃ d, Arrives d u.recvs w.recvs ∧ Reply.decode d = .ok r := by
  induction left generalizing attempt w with
  | zero => cases h
  | succ left ih =>
    simp only [Direct.readFrom, Exchange.bind_eq_ok, Exchange.act_eq_ok] at h
    obtain ⟨outcome, v, hrecv, h⟩ := h
    obtain ⟨taken, called⟩ := s.transport.recv_receives w
    rw [hrecv] at taken called
    cases outcome with
    | ok d' =>
      obtain ⟨hr, rfl⟩ := Exchange.settle_eq_ok.mp h
      obtain ⟨d, hd, ha⟩ := taken.arrives
      exact ⟨called, d, ha, hd.trans (readReply_eq_ok hr)⟩
    | error f =>
      by_cases hf : f.isOs
      · simp only [hf, if_true, Exchange.bind_eq_ok] at h
        obtain ⟨_, v₁, hnote, h⟩ := h
        cases hnote
        -- whether or not there was a pause, the loop goes on from where the receive left off
        have go : ∃ v₂, v₂.recvs = v.recvs ∧ v₂.calls = v.calls ∧
            Direct.readFrom manner s left (attempt + 1) v₂ = (.ok r, u) := by
          split at h
          · obtain ⟨_, v₂, hp, h⟩ := Exchange.bind_eq_ok.mp h
            exact ⟨v₂, (pause_frame hp).1, (pause_frame hp).2, h⟩
          · exact ⟨v.note (s.failedNotice attempt f), rfl, rfl, h⟩
        obtain ⟨v₂, recvs, calls, h⟩ := go
        obtain ⟨called', d, ha, hd⟩ := ih h
        rw [calls] at called'
        rw [recvs] at ha
        exact ⟨called.trans called', d, taken.arrives_later hf ha, hd⟩
      · simp only [hf] at h
        cases h

theorem read_eq_ok {r : Reply} (h : Direct.read manner s w = (.ok r, u)) :
    w.calls <+: u.calls ∧ ∃ d, Arrives d u.recvs w.recvs ∧ Reply.decode d = .ok r := by
  simp only [Direct.read, Exchange.bind_eq_ok, Exchange.settle_eq_ok] at h
  obtain ⟨n, v, ⟨-, rfl⟩, h⟩ := h
  exact readFrom_eq_ok h

/-- What lies behind a mapping that was granted: its request was handed over, and it is what the first
datagram tells that arrived. -/
theorem mapPort_eq_ok {c : ProtocolChoice} {a b l : Value} {m : Mapping}
    (h : Direct.mapPort manner s c a b l w = (.ok m, u)) :
    ∃ request d, mappingRequest c a b l = .ok request ∧ w.calls ++ [.send request] <+: u.calls ∧
      Arrives d u.recvs w.recvs ∧
      Reply.decode d = .ok (.mapping m.protocol m.epoch m.privatePort m.publicPort m.lifetime) := by
  simp only [Direct.mapPort, Direct.sendMapping, Exchange.bind_eq_ok, Exchange.settle_eq_ok] at h
  obtain ⟨_, v₁, ⟨request, _, ⟨hreq, rfl⟩, hwrite⟩, reply, v₂, hread, m', _, ⟨hm, rfl⟩, _, v₃, hnote,
    hpure⟩ := h
  cases hnote
  cases hpure
  obtain ⟨recvs, calls⟩ := write_frame hwrite
  obtain ⟨called, d, ha, hd⟩ := read_eq_ok hread
  cases reply with
  | publicAddress => cases hm
  | mapping =>
    cases hm
    rw [recvs] at ha
    exact ⟨request, d, hreq, calls.trans called, ha, hd⟩

/-- A mapping that was deleted is one that was granted for the lifetime zero; the deletion is the last
thing that is noted. -/
theorem unmapPort_eq_ok {p : Protocol} {a : Value} {m : Mapping}
    (h : Direct.unmapPort manner s (.known p) a w = (.ok m, u)) :
    ∃ v, Direct.mapPort manner s (.known p) a (.whole 0) (.whole 0) w = (.ok m, v) ∧
      u = v.note (deletedNotice p.name a) := by
  simp only [Direct.unmapPort, Exchange.bind_eq_ok, Exchange.settle_eq_ok] at h
  obtain ⟨m', v, hmap, _, _, ⟨hp, rfl⟩, _, v', hnote, hpure⟩ := h
  cases hp
  cases hnote
  cases hpure
  exact ⟨v, hmap, rfl⟩

/-! ### Runs -/

/-- What a step of a run with an answer did, in either manner. -/
theorem step_of_record {manner : Manner} {steps : List Step} {i : Nat} {step : Step} {r : Record}
    {x : Answer} (hr : (runSteps manner s steps w)[i]? = some r) (hx : r.outcome = .ok x)
    (hi : steps[i]? = some step) :
    Direct.step manner (s.afterAll (steps.take i)) step (worldAfter manner s (steps.take i) w).untraced =
      (.ok x, r.world) := by
  rw [getElem?_runSteps, hi, Option.map_some, Option.some.injEq] at hr
  subst hr
  simp only [record, perform_eq] at hx ⊢
  exact Prod.ext hx rfl

theorem ofMapping_injective : Function.Injective Answer.ofMapping := by
  rintro ⟨⟩ ⟨⟩ h
  cases h
  rfl

/-- What an exchange did in which a mapping was granted: it began with the request, and the mapping is
what the datagram tells that arrived first. -/
structure Granted (before after : World) (request d : Bytes) (m : Mapping) : Prop where
  /-- The request was handed over before anything else. -/
  sent : after.calls.head? = some (.send request)
  /-- Of the datagrams that were to be received, this is the first one. -/
  arrived : Arrives d after.recvs before.recvs
  /-- The datagram tells of the mapping. -/
  told : Reply.decode d = .ok (.mapping m.protocol m.epoch m.privatePort m.publicPort m.lifetime)

theorem granted_of_mapPort {p : Protocol} {a b l : Value} {m : Mapping}
    (h : Direct.mapPort manner s (.known p) a b l w.untraced = (.ok m, u)) :
    ∃ request d, mappingRequest (.known p) a b l = .ok request ∧ Granted w u request d m ∧
      (m.protocol = p ∧ a.wholeNumber? = some (m.privatePort.toNat : Int) ↔ Answers request d) := by
  obtain ⟨request, d, hreq, ⟨more, hcalls⟩, ha, hd⟩ := mapPort_eq_ok h
  have sent : u.calls.head? = some (.send request) := by
    rw [← hcalls]
    rfl
  refine ⟨request, d, hreq, ⟨sent, ha, hd⟩, ?_⟩
  obtain ⟨x, y, z, hx, -, -, rfl⟩ := (mappingRequest_eq_ok_iff _ a b l request).mp hreq
  rw [ProtocolChoice.sent, answers_iff hd, hx, Option.some.injEq, Int.natCast_inj, UInt16.toNat_inj,
    eq_comm (a := x)]

/-- **When an answer belongs to its question.** In every run, whatever went before, a mapping that is
granted or deleted is what the first datagram tells that arrives in that exchange, with nothing but
failures of the operating system before it. It has the protocol and the private port that were asked for
exactly if that datagram answers the request that was sent; a deletion, which is noted in any case, has
the lifetime zero exactly if that datagram tells so. -/
theorem granted_iff_answers (manner : Manner) (s : Session) (steps : List Step) (w : World) (i : Nat)
    (r : Record) (x : Answer) (hr : (runSteps manner s steps w)[i]? = some r) (hx : r.outcome = .ok x) :
    (∀ p a b l, steps[i]? = some (.mapPort (.known p) a b l) →
      ∃ m request d, x = .ofMapping m ∧ mappingRequest (.known p) a b l = .ok request ∧
        Granted (worldAfter manner s (steps.take i) w) r.world request d m ∧
        (m.protocol = p ∧ a.wholeNumber? = some (m.privatePort.toNat : Int) ↔ Answers request d)) ∧
    (∀ p a, steps[i]? = some (.unmapPort (.known p) a) →
      ∃ m request d, x = .ofMapping m ∧
        mappingRequest (.known p) a (.whole 0) (.whole 0) = .ok request ∧
        Granted (worldAfter manner s (steps.take i) w) r.world request d m ∧
        (m.protocol = p ∧ a.wholeNumber? = some (m.privatePort.toNat : Int) ↔ Answers request d) ∧
        (m.lifetime = 0 ↔ get32 (area d) 12 = 0) ∧
        r.world.notices.getLast? = some (deletedNotice p.name a)) := by
  constructor
  · intro p a b l hi
    obtain ⟨m, h, rfl⟩ := Exchange.map_eq_ok.mp (step_of_record hr hx hi)
    obtain ⟨request, d, hreq, granted, belongs⟩ := granted_of_mapPort h
    exact ⟨m, request, d, rfl, hreq, granted, belongs⟩
  · intro p a hi
    obtain ⟨m, h, rfl⟩ := Exchange.map_eq_ok.mp (step_of_record hr hx hi)
    obtain ⟨v, hmap, hv⟩ := unmapPort_eq_ok h
    obtain ⟨request, d, hreq, ⟨sent, arrived, told⟩, belongs⟩ := granted_of_mapPort hmap
    have lifetime : get32 (area d) 12 = m.lifetime.toNat :=
      ((Reply.decode_eq_mapping_iff d _ _ _ _ _).mp told).2.2.2.2.2.2
    refine ⟨m, request, d, rfl, hreq, ?_, belongs, ?_, ?_⟩
    · rw [hv]
      exact ⟨sent, arrived, told⟩
    · rw [lifetime, ← UInt32.toNat_inj]
      rfl
    · rw [hv]
      exact List.getLast?_concat

/-- The reply to a request that went without an answer arrives after the same request was sent again, and
answers it. -/
theorem granted_iff_answers_again :
    let s : Session := ⟨.direct .awaited, ⟨10, 0, 0, 1⟩, .whole 1, none⟩
    let step : Step := .mapPort (.known .udp) (.whole 80) (.whole 8080) (.whole 3600)
    let w : World := { recvs := [.fails World.silence,
      .datagram [0, 129, 0, 0, 0, 0, 0, 9, 0, 80, 0x1f, 0x90, 0, 0, 0x0e, 0x10]] }
    let m : Mapping := ⟨.udp, 9, 80, 8080, 3600⟩
    ∃ r request d, (runSteps .async s [step, step] w)[1]? = some r ∧ r.outcome = .ok (.ofMapping m) ∧
      Granted (worldAfter .async s [step] w) r.world request d m ∧ Answers request d := by
  intro s step w m
  obtain ⟨m', request, d, hm, -, granted, belongs⟩ :=
    (granted_iff_answers .async s [step, step] w 1 _ (.ofMapping m) rfl rfl).1 .udp _ _ _ rfl
  obtain rfl := ofMapping_injective hm
  exact ⟨_, request, d, rfl, rfl, granted, belongs.mp ⟨rfl, rfl⟩⟩

/-- The reply to a request that went without an answer arrives after another request was sent, and is
taken for the answer to that one. -/
theorem late_reply_granted :
    ¬ ∀ (manner : Manner) (s : Session) (steps : List Step) (w : World) (i : Nat) (r : Record)
      (x : Answer) (p : Protocol) (a b l : Value), (runSteps manner s steps w)[i]? = some r →
      r.outcome = .ok x → steps[i]? = some (.mapPort (.known p) a b l) →
      ∃ m, x = .ofMapping m ∧ m.protocol = p ∧ a.wholeNumber? = some (m.privatePort.toNat : Int) := by
  intro h
  let s : Session := ⟨.direct .immediate, ⟨10, 0, 0, 1⟩, .whole 1, none⟩
  let steps : List Step := [.mapPort (.known .udp) (.whole 80) (.whole 8080) (.whole 3600),
    .mapPort (.known .tcp) (.whole 443) (.whole 443) (.whole 60)]
  let w : World := { recvs := [.fails World.silence,
    .datagram [0, 129, 0, 0, 0, 0, 0, 9, 0, 80, 0x1f, 0x90, 0, 0, 0x0e, 0x10]] }
  obtain ⟨m, hm, hp, -⟩ := h .blocking s steps w 1 _ (.ofMapping ⟨.udp, 9, 80, 8080, 3600⟩) .tcp
    (.whole 443) (.whole 443) (.whole 60) rfl rfl rfl
  obtain rfl := ofMapping_injective hm
  cases hp

end Session

end PortMap
