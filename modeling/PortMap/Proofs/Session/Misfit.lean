import PortMap.Proofs.Session.Shape

/-!
# Values that do not fit the wire

Two faults of a session say that a value given to it does not fit: a number is too large for its field in a
request, or a gateway is no address. They are faults of the caller, and no complaint tells them the user.

## The argument

Once a request was written, what is left is to receive a reply and to take it for what was asked. The faults of
this part are told by `Fault.IsLater`: each single act has no others, and they pass through sequencing
(`Exchange.Keeps.bind`), so what follows a request has no others (`following_later`), and neither has a read
(`read_later`). A write has faults of its own, but none of the two either, so once a request has its message,
nothing is left that could misfit (`step_fits`).
-/

namespace PortMap.Session

open Wire Net

variable {α : Type}

/-! ### What follows a request -/

/-- The faults that may come once a request was written: no reply is received, or not the one that was asked
for. -/
def Fault.IsLater : Fault → Prop
  | .reply _ | .unexpectedReply .. | .noReply .. | .network _ | .delay _ | .wait _ | .notCount _
  | .noProtocol _ => True
  | _ => False

/-- An exchange has no faults but those that come after a request. -/
def Later (x : Exchange α) : Prop := Exchange.Keeps (fun _ => True) Fault.IsLater x

variable {manner : Manner} (s : Session)

theorem note_later (n : Log.Notice) : Later (Exchange.note n) := Exchange.Keeps.act fun _ => id

theorem pause_later (attempt : Nat) : Later (Direct.pause manner s attempt) := by
  unfold Direct.pause
  cases s.backoff with
  | none => exact Exchange.Keeps.pure ()
  | some schedule =>
    refine (Exchange.Keeps.settle fun e h => ?_).bind fun d =>
      Exchange.Keeps.sleep manner d (fun _ => trivial) fun _ => id
    cases hd : schedule.delay attempt with
    | ok d =>
      rw [hd] at h
      cases h
    | error cause =>
      rw [hd] at h
      cases h
      trivial

theorem readFrom_later (left attempt : Nat) : Later (Direct.readFrom manner s left attempt) := by
  induction left generalizing attempt with
  | zero => exact Exchange.Keeps.throw trivial
  | succ left ih =>
    unfold Direct.readFrom
    refine Exchange.Keeps.bind (Exchange.Keeps.act fun _ => id) fun outcome => ?_
    cases outcome with
    | ok d =>
      refine Exchange.Keeps.settle fun e h => ?_
      unfold readReply at h
      cases hd : Reply.decode d with
      | ok r =>
        rw [hd] at h
        cases h
      | error cause =>
        rw [hd] at h
        cases h
        trivial
    | error f =>
      simp only
      split
      · refine (note_later _).bind fun _ => ?_
        split
        · exact (pause_later s attempt).bind fun _ => ih (attempt + 1)
        · exact ih (attempt + 1)
      · exact Exchange.Keeps.throw trivial

theorem read_later : Later (Direct.read manner s) := by
  refine (Exchange.Keeps.settle fun e h => ?_).bind fun n => readFrom_later s n 0
  unfold attempts at h
  split at h
  · cases h
  · cases h
    trivial

theorem conclude_later (step : Step) (reply : Reply) : Later (step.conclude reply) := by
  have granted : Later (granting reply) := by
    refine (Exchange.Keeps.settle fun e h => ?_).bind fun _ => (note_later _).bind fun _ =>
      Exchange.Keeps.pure _
    cases reply <;> cases h
    trivial
  cases step with
  | publicAddress =>
    refine Exchange.Keeps.map _ (Exchange.Keeps.settle fun e h => ?_)
    cases reply <;> cases h
    trivial
  | mapPort => exact granted.map _
  | unmapPort protocol =>
    refine granted.bind fun _ => (Exchange.Keeps.settle fun e h => ?_).bind fun _ =>
      (note_later _).bind fun _ => Exchange.Keeps.pure _
    cases protocol <;> cases h
    trivial
  | _ => exact Exchange.Keeps.pure _

/-- After its request was sent, a step has no faults but those that come after a request. -/
theorem following_later (step : Step) : Later (step.following manner s) := by
  cases step with
  | publicAddress | mapPort | unmapPort => exact (read_later s).bind (conclude_later _)
  | _ => exact Exchange.Keeps.pure _

/-- A step without a request has no faults but those that come after one. -/
theorem later_of_unasked {step : Step} (asked : step.request? = none) : Later (Direct.step manner s step) := by
  have closes : Later (Direct.close s) := by
    unfold Direct.close
    cases s.transport.closing with
    | absent => exact Exchange.Keeps.pure ()
    | immediate | awaited => exact Exchange.Keeps.act fun _ => id
  cases step with
  | read => exact (read_later s).map _
  | gateway | setAttempts | setBackoff => exact Exchange.Keeps.pure _
  | close | context => exact closes.map _
  | _ => cases asked

/-! ### Values that fit -/

/-- A value does not fit the wire. -/
def Fault.IsMisfit : Fault → Prop
  | .field _ | .address _ => True
  | _ => False

theorem Fault.complaint?_of_isMisfit {e : Fault} (h : e.IsMisfit) : e.complaint? = none := by
  cases e with
  | field | address => rfl
  | _ => cases h

theorem Fault.IsLater.not_isMisfit {e : Fault} (h : e.IsLater) : ¬ e.IsMisfit := by
  cases e with
  | field | address => cases h
  | _ => exact id

/-- No fault of an exchange is that a value does not fit. -/
def Fits (x : Exchange α) : Prop := ∀ w e, (x w).1 = .error e → ¬ e.IsMisfit

/-- **A step whose request has a message never faults for a value that does not fit.** -/
theorem step_fits {step : Step} {request : Bytes} (h : step.request? = some (.ok request)) :
    Fits (Direct.step manner s step) := by
  intro w e he
  obtain ⟨f, -, ended⟩ | ⟨n, -, -, ended⟩ | ⟨-, ended⟩ := step_of_request (s := s) h w
  · rw [ended] at he
    cases he
    split <;> exact id
  · rw [ended] at he
    cases he
    exact id
  · rw [ended] at he
    exact ((following_later s step _ trivial).1 e he).not_isMisfit

end PortMap.Session
