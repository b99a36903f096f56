import PortMap.Proofs.Session.FirstDatagram

/-!
# Arguments that are refused

A request for a mapping is made of values of any kind. This module tells which faults are the caller's own, and
what has happened when one of them is told: nothing at all, with one exception. A value that is no protocol
goes out as TCP, so a deletion that is asked for with such a value is carried out for TCP first; whether the
value goes by a name is only noticed when the deletion is to be noted. If it does, the deletion is noted under that
name, and nothing tells that TCP was meant.

## The argument

`OnlyComplains x` says that an exchange which starts in an ordinary world fails with nothing but complaints about
the gateway, and ends in an ordinary world. It holds of each single act where sends and receives fail with
faults of the operating system only, and passes through sequencing (`Exchange.Keeps.bind`). So it holds of a write,
of the loop of receives without delays, and of what is made of a reply, unless a name is asked of a value that
has none. A fault that is no complaint can therefore only come from the arguments, before anything is
sent (`complains_of_request`).

## What is proved

* `perform_unmapPort` — a deletion is a request with lifetime zero, and then asks for the name of the protocol.
* `foreign_fault_changes_nothing` — **a fault that is no complaint has changed nothing**, that deletion apart.
* `unnamed_protocol_deletes` — the deletion, at a value that looks like the name of the other protocol.
-/

namespace PortMap

open Wire

namespace Net

/-! ### Ordinary worlds -/

/-- The deadline of a transport, if it has one, is a time. -/
def Transport.Timed (t : Transport) : Prop :=
  ∀ timeout, t = .polled timeout → ∃ passed, deadlineAtStart timeout = .ok passed

variable {w : World}

/-- In an ordinary world a send fails with a fault of the operating system, if it fails. -/
theorem Transport.send_ordinary (t : Transport) (d : Bytes) (h : w.Ordinary) :
    (∀ f, (t.send d w).1 = .error f → f.isOs) ∧ (t.send d w).2.Ordinary := by
  have bare : (∀ f, (w.send d).1 = .error f → f.isOs) ∧ (w.send d).2.Ordinary := by
    refine ⟨fun f failed => h.sends f ?_, ?_⟩
    · obtain ⟨sends, _⟩ := w
      rcases sends with _ | ⟨_ | _ | _, rest⟩ <;> cases failed
      exact List.mem_cons_self
    · rw [World.send_world]
      exact ⟨fun f hf => h.sends f (List.mem_of_mem_drop hf), h.recvs⟩
  cases t with
  | direct | waiting => exact bare
  | polled timeout =>
    refine ⟨fun f failed => ?_, ?_⟩
    · rw [send_polled] at failed
      split at failed
      · rename_i stopped
        cases failed
        exact h.sends f (Pieces.mem_of_failure stopped)
      · cases failed
    · rw [send_polled_world]
      exact ⟨fun f hf => h.sends f (Pieces.mem_of_left hf), h.recvs⟩

/-- In an ordinary world a receive fails with a fault of the operating system, if it fails. -/
theorem Transport.recv_ordinary {t : Transport} (timed : t.Timed) (h : w.Ordinary) :
    (∀ f, (t.recv areaSize w).1 = .error f → f.isOs) ∧ (t.recv areaSize w).2.Ordinary := by
  have listening (listens : t.Listens) :
      (∀ f, (t.recv areaSize w).1 = .error f → f.isOs) ∧ (t.recv areaSize w).2.Ordinary := by
    obtain ⟨conveyed, taken⟩ := Transport.recv_outcome listens w
    refine ⟨fun f failed => ?_, ⟨fun f hf => ?_, fun f hf => ?_⟩⟩
    · rw [failed] at conveyed
      generalize next : w.outcome 0 = o at conveyed
      cases conveyed with
      | failure same => exact same.trans (World.isOs_outcome h.recvs next)
    · rw [t.recv_sends] at hf
      exact h.sends f hf
    · rw [taken] at hf
      exact h.recvs f (List.mem_of_mem_drop hf)
  cases t with
  | direct | waiting => exact listening trivial
  | polled timeout =>
    obtain ⟨_ | _, deadline⟩ := timed timeout rfl
    · exact listening deadline
    · -- the deadline has passed at the start, so the socket is left alone
      have given : (Transport.polled timeout).recv areaSize w = (.error (deadlinePassed timeout), w) := by
        simp only [recv, World.recvBefore, deadline]
      rw [given]
      refine ⟨fun f failed => ?_, h⟩
      cases failed
      rfl

end Net

namespace Session

open Net

variable {α : Type}

/-! ### Exchanges that fail with complaints only -/

/-- From an ordinary world, an exchange fails with nothing but complaints, and leaves an ordinary world. -/
def OnlyComplains (x : Exchange α) : Prop := Exchange.Keeps World.Ordinary (fun e => e.complaint?.isSome) x

theorem note_complains (n : Log.Notice) : OnlyComplains (Exchange.note n) :=
  Exchange.Keeps.act fun _ ordinary => ⟨ordinary.sends, ordinary.recvs⟩

variable {manner : Manner} {s : Session} {w : World}

theorem write_complains (s : Session) (request : Bytes) : OnlyComplains (Direct.write s request) := by
  intro w ordinary
  obtain ⟨os, kept⟩ := s.transport.send_ordinary request ordinary
  obtain ⟨f, failed, written⟩ | ⟨n, -, -, written⟩ | ⟨-, written⟩ := write_cases s request w
  · rw [written, if_pos (os f failed)]
    refine ⟨fun e he => ?_, kept⟩
    cases he
    rfl
  · rw [written]
    refine ⟨fun e he => ?_, kept⟩
    cases he
    rfl
  · rw [written]
    exact ⟨nofun, kept.sends, kept.recvs⟩

theorem readReply_complains (d : Bytes) : OnlyComplains (Exchange.settle (readReply d)) := by
  refine Exchange.Keeps.settle fun e he => ?_
  cases reads : Reply.decode d with
  | ok reply =>
    rw [readReply, reads] at he
    cases he
  | error cause =>
    rw [readReply, reads] at he
    cases he
    rfl

/-- Without delays, the loop of receives fails with nothing but complaints. -/
theorem readFrom_complains (undelayed : s.backoff = none) (timed : s.transport.Timed) (left attempt : Nat) :
    OnlyComplains (Direct.readFrom manner s left attempt) := by
  induction left generalizing attempt with
  | zero => exact Exchange.Keeps.throw rfl
  | succ left ih =>
    intro w ordinary
    obtain ⟨os, kept⟩ := Transport.recv_ordinary timed ordinary
    have received := Exchange.act_apply (s.transport.recv areaSize) w
    rcases hr : s.transport.recv areaSize w with ⟨f | d, u⟩ <;> rw [hr] at os kept received
    · rw [readFrom_of_failed received (os f rfl)]
      split
      · rw [Exchange.bind_ok (pause_eq (undelayed ▸ passes_none))]
        exact ih (attempt + 1) _ ⟨kept.sends, kept.recvs⟩
      · exact ih (attempt + 1) _ ⟨kept.sends, kept.recvs⟩
    · rw [readFrom_of_received received]
      exact readReply_complains d u kept

theorem read_complains (undelayed : s.backoff = none) (timed : s.transport.Timed)
    (counted : s.maxAttempts.wholeNumber?.isSome) : OnlyComplains (Direct.read manner s) := by
  refine (Exchange.Keeps.settle fun e he => ?_).bind fun n => readFrom_complains undelayed timed n 0
  obtain ⟨n, count⟩ := Option.isSome_iff_exists.mp counted
  rw [attempts, count] at he
  cases he

theorem granting_complains (reply : Reply) : OnlyComplains (granting reply) := by
  refine (Exchange.Keeps.settle fun e he => ?_).bind fun _ => (note_complains _).bind fun _ =>
    Exchange.Keeps.pure _
  cases reply <;> cases he
  rfl

/-! ### Steps that ask for a mapping -/

/-- A step that asks for a mapping, or for one to be deleted. -/
def Step.IsMapping : Step → Prop
  | .sendMapping .. | .mapPort .. | .unmapPort .. => True
  | _ => False

/-- A step that has a name for the protocol where it asks for one. -/
def Step.NamesProtocol : Step → Prop
  | .unmapPort c _ => ∃ name, protocolName c = .ok name
  | _ => True

theorem conclude_complains {step : Step} (mapping : step.IsMapping) (named : step.NamesProtocol)
    (reply : Reply) : OnlyComplains (step.conclude reply) := by
  cases step with
  | sendMapping => exact Exchange.Keeps.pure _
  | mapPort => exact (granting_complains reply).map _
  | unmapPort c =>
    obtain ⟨name, hname⟩ := named
    have settled : OnlyComplains (Exchange.settle (protocolName c)) := by
      rw [hname]
      exact Exchange.Keeps.pure name
    exact (granting_complains reply).bind fun _ => settled.bind fun _ =>
      (note_complains _).bind fun _ => Exchange.Keeps.pure _
  | _ => cases mapping

/-- **A request that has a message fails with nothing but complaints.** -/
theorem complains_of_request (undelayed : s.backoff = none) (timed : s.transport.Timed)
    (counted : s.maxAttempts.wholeNumber?.isSome) {step : Step} (mapping : step.IsMapping)
    (named : step.NamesProtocol) {request : Bytes} (asked : step.request? = some (.ok request)) :
    OnlyComplains (Direct.step manner s step) := by
  rw [step_eq_asking s asked]
  have settled : OnlyComplains (Exchange.settle (.ok request)) := Exchange.Keeps.pure request
  refine settled.bind fun d => (write_complains s d).bind fun _ => ?_
  cases step with
  | sendMapping => exact Exchange.Keeps.pure _
  | mapPort | unmapPort =>
    exact (read_complains undelayed timed counted).bind (conclude_complains mapping named)
  | _ => cases mapping

/-- A request without a message has called nothing. -/
theorem perform_of_misfit (manner : Manner) (s : Session) (w : World) {step : Step} {e : Fault}
    (asked : step.request? = some (.error e)) : step.perform manner s w = (.error e, w) := by
  rw [perform_eq, step_eq_asking s asked]
  rfl

/-- **A deletion does what the request with lifetime zero does**, with the protocol that is sent for the caller's. Where
that has an answer, the name of the caller's protocol is asked for: the deletion is noted under it, or fails if there
is none. -/
theorem perform_unmapPort (manner : Manner) (s : Session) (w : World) (c : ProtocolChoice) (a : Value) :
    (Step.unmapPort c a).perform manner s w =
      match (Step.mapPort (.known c.sent) a (.whole 0) (.whole 0)).perform manner s w with
      | (.error e, u) => (.error e, u)
      | (.ok x, u) =>
        match protocolName c with
        | .ok name => (.ok x, u.note (deletedNotice name a))
        | .error e => (.error e, u) := by
  have sent : Direct.mapPort manner s c a (.whole 0) (.whole 0) =
      Direct.mapPort manner s (.known c.sent) a (.whole 0) (.whole 0) := rfl
  simp only [perform_eq, Direct.step, Direct.unmapPort, sent, Exchange.map_apply, Exchange.bind_apply]
  rcases Direct.mapPort manner s (.known c.sent) a (.whole 0) (.whole 0) w with ⟨e | m, u⟩
  · rfl
  · cases h : protocolName c <;> rfl

theorem isMapping_request {step : Step} (mapping : step.IsMapping) : ∃ request, step.request? = some request := by
  cases step with
  | sendMapping | mapPort | unmapPort => exact ⟨_, rfl⟩
  | _ => cases mapping

/-- Where the gateway grants it, a deletion for a value without a name has sent the request for TCP. -/
theorem sent_of_granted {v a : Value}
    (granted : ∃ x, ((Step.mapPort (.known .tcp) a (.whole 0) (.whole 0)).perform manner s w).1 = .ok x) :
    ∃ request, mappingRequest (.known .tcp) a (.whole 0) (.whole 0) = .ok request ∧
      w.calls ++ [.send request] <+: ((Step.unmapPort (.unknown v) a).perform manner s w).2.calls := by
  obtain ⟨x, hx⟩ := granted
  rw [perform_unmapPort, ProtocolChoice.sent]
  rcases done : (Step.mapPort (.known .tcp) a (.whole 0) (.whole 0)).perform manner s w with ⟨e | x', u⟩
  · rw [done] at hx
    cases hx
  · rw [perform_eq, Direct.step, Exchange.map_eq_ok] at done
    obtain ⟨m, mapped, -⟩ := done
    obtain ⟨request, -, asked, sent, -⟩ := mapPort_eq_ok mapped
    exact ⟨request, asked, sent⟩

/-- **A fault that is no complaint about the gateway has changed nothing**: in every session without delays
and with a number of attempts, whose transport fails with faults of the operating system only, and for
values of any kind as the protocol, the ports and the lifetime.

* A request with a value that does not fit fails for the leftmost such value, and leaves the world as it was.
* A fault that is no complaint is one of these, or comes from a deletion for a value that is no protocol and goes by
  no name, the request of which was sent.
* A deletion for any value that is no protocol is carried out for TCP. Where the gateway grants it, it fails with a
  fault that is no complaint if the value goes by no name; if it does go by one, as the member of another enumeration
  does, the deletion has its answer, and is noted under that name. Everywhere else it ends as the request for TCP
  does. -/
theorem foreign_fault_changes_nothing (manner : Manner) (s : Session) (w : World) (undelayed : s.backoff = none)
    (counted : s.maxAttempts.wholeNumber?.isSome) (timed : s.transport.Timed) (ordinary : w.Ordinary) :
    (∀ (step : Step) (e : Fault), step.request? = some (.error e) →
      step.perform manner s w = (.error e, w) ∧ e.complaint? = none) ∧
    (∀ (step : Step) (e : Fault), step.IsMapping → (step.perform manner s w).1 = .error e →
      e.complaint? = none →
        step.request? = some (.error e) ∧ (step.perform manner s w).2 = w ∨
          ∃ v a request, step = .unmapPort (.unknown v) a ∧ e = .noProtocol v ∧
            mappingRequest (.known .tcp) a (.whole 0) (.whole 0) = .ok request ∧
            w.calls ++ [.send request] <+: (step.perform manner s w).2.calls) ∧
    (∀ v a : Value, (Step.unmapPort (.unknown v) a).perform manner s w =
      match (Step.mapPort (.known .tcp) a (.whole 0) (.whole 0)).perform manner s w with
      | (.ok _, u) => (.error (.noProtocol v), u)
      | (.error e, u) => (.error e, u)) ∧
    ∀ name a : Value, (Step.unmapPort (.lookalike name) a).perform manner s w =
      match (Step.mapPort (.known .tcp) a (.whole 0) (.whole 0)).perform manner s w with
      | (.ok x, u) => (.ok x, u.note (deletedNotice name.display a))
      | (.error e, u) => (.error e, u) := by
  have unnamed (v a : Value) : (Step.unmapPort (.unknown v) a).perform manner s w =
      match (Step.mapPort (.known .tcp) a (.whole 0) (.whole 0)).perform manner s w with
      | (.ok _, u) => (.error (.noProtocol v), u)
      | (.error e, u) => (.error e, u) := by
    rw [perform_unmapPort, ProtocolChoice.sent]
    rcases (Step.mapPort (.known .tcp) a (.whole 0) (.whole 0)).perform manner s w with ⟨e | x, u⟩ <;> rfl
  refine ⟨fun step e asked => ?_, fun step e mapping raised foreign => ?_, unnamed, fun name a => ?_⟩
  · obtain ⟨cause, rfl⟩ := request?_eq_error asked
    exact ⟨perform_of_misfit manner s w asked, rfl⟩
  · obtain ⟨request, asked⟩ := isMapping_request mapping
    cases request with
    | error e' =>
      rw [perform_of_misfit manner s w asked] at raised ⊢
      cases raised
      exact .inl ⟨asked, rfl⟩
    | ok request =>
      -- a request with a message only complains, so the fault must come from the missing name
      have complains (step' : Step) (mapping' : step'.IsMapping) (named : step'.NamesProtocol)
          (asked' : step'.request? = some (.ok request)) (raised' : (step'.perform manner s w).1 = .error e) :
          False := by
        rw [perform_eq] at raised'
        have told : e.complaint?.isSome :=
          (complains_of_request undelayed timed counted mapping' named asked' w ordinary).1 e raised'
        rw [foreign] at told
        cases told
      cases step with
      | sendMapping | mapPort => exact (complains _ mapping trivial asked raised).elim
      | unmapPort c a =>
        cases c with
        | known | lookalike => exact (complains _ mapping ⟨_, rfl⟩ asked raised).elim
        | unknown v =>
          rcases done : (Step.mapPort (.known .tcp) a (.whole 0) (.whole 0)).perform manner s w with ⟨e' | x, u⟩
          · rw [unnamed, done] at raised
            cases raised
            exact (complains (.mapPort (.known .tcp) a (.whole 0) (.whole 0)) trivial trivial asked
              (congrArg Prod.fst done)).elim
          · obtain rfl : e = .noProtocol v := by
              rw [unnamed, done] at raised
              cases raised
              rfl
            obtain ⟨request, asked, sent⟩ := sent_of_granted (v := v) ⟨x, congrArg Prod.fst done⟩
            exact .inr ⟨v, a, request, rfl, rfl, asked, sent⟩
      | _ => cases mapping
  · rw [perform_unmapPort, ProtocolChoice.sent]
    rcases (Step.mapPort (.known .tcp) a (.whole 0) (.whole 0)).perform manner s w with ⟨e | x, u⟩ <;> rfl

/-- A gateway that grants the deletion of TCP port 80. -/
def grantsDeletion : World where
  recvs := [.datagram [0, 130, 0, 0, 0, 0, 0, 9, 0, 80, 0, 0, 0, 0, 0, 0]]

/-- A lifetime that is too large, with a value that is no protocol, a deletion with such a value, and one with the
opcode of UDP, which goes by a number. -/
theorem foreign_fault_changes_nothing_unnamed :
    let s : Session := ⟨.direct .immediate, ⟨10, 0, 0, 1⟩, .whole 1, none⟩
    let icmp : ProtocolChoice := .unknown (.text "ICMP")
    let tooLong : Step := .mapPort icmp (.whole 80) (.whole 0) (.whole (2 ^ 32))
    let deletion : Step := .unmapPort icmp (.whole 80)
    let ofOpcode : Step := .unmapPort (.lookalike (.whole 1)) (.whole 80)
    s.backoff = none ∧ s.maxAttempts.wholeNumber?.isSome ∧ s.transport.Timed ∧ grantsDeletion.Ordinary ∧
      tooLong.perform .async s grantsDeletion = (.error (.field (.tooLarge .long)), grantsDeletion) ∧
      (deletion.perform .async s grantsDeletion).1 = .error (.noProtocol (.text "ICMP")) ∧
      [.send [0, 2, 0, 0, 0, 80, 0, 0, 0, 0, 0, 0]] <+: (deletion.perform .async s grantsDeletion).2.calls ∧
      (ofOpcode.perform .async s grantsDeletion).1 = .ok (.reply (.mapping .tcp 9 80 0 0)) ∧
      (ofOpcode.perform .async s grantsDeletion).2.notices.getLast? =
        some ⟨.info, logger, "Deleted 1 port mapping for port 80"⟩ := by
  intro s icmp tooLong deletion ofOpcode
  have timed : s.transport.Timed := fun timeout h => by cases h
  have ordinary : grantsDeletion.Ordinary := ⟨by simp [grantsDeletion], by simp [grantsDeletion]⟩
  obtain ⟨refused, foreign, asTcp, named⟩ := foreign_fault_changes_nothing .async s grantsDeletion rfl rfl timed ordinary
  have raised : (deletion.perform .async s grantsDeletion).1 = .error (.noProtocol (.text "ICMP")) := by
    rw [asTcp]
    rfl
  refine ⟨rfl, rfl, timed, ordinary, (refused tooLong _ rfl).1, raised, ?_, by rw [named]; rfl, by rw [named]; rfl⟩
  obtain ⟨unasked, -⟩ | ⟨v, a, request, same, -, asked, sent⟩ := foreign deletion _ trivial raised rfl
  · cases unasked
  · change Step.unmapPort (.unknown (.text "ICMP")) (.whole 80) = _ at same
    cases same
    cases asked
    exact sent

/-- A caller who writes the name of a protocol in capitals has the mapping of TCP deleted, and is told afterwards
that what was named is no protocol. -/
theorem unnamed_protocol_deletes :
    ¬ ∀ (manner : Manner) (s : Session) (w : World) (step : Step) (e : Fault), s.backoff = none →
      s.maxAttempts.wholeNumber?.isSome → s.transport.Timed → w.Ordinary → step.IsMapping →
      (step.perform manner s w).1 = .error e → e.complaint? = none →
      (step.perform manner s w).2.calls = w.calls ∧ (step.perform manner s w).2.sends = w.sends ∧
        (step.perform manner s w).2.recvs = w.recvs := by
  intro h
  let s : Session := ⟨.direct .immediate, ⟨10, 0, 0, 1⟩, .whole 1, none⟩
  have timed : s.transport.Timed := fun timeout h => by cases h
  have ordinary : grantsDeletion.Ordinary := ⟨by simp [grantsDeletion], by simp [grantsDeletion]⟩
  obtain ⟨-, -, recvs⟩ := h .blocking s grantsDeletion (.unmapPort (.unknown (.text "UDP")) (.whole 80))
    (.noProtocol (.text "UDP")) rfl rfl timed ordinary trivial rfl rfl
  cases recvs

end Session

end PortMap
