import PortMap.Proofs.Session.Exchange
import PortMap.Session.Step

/-!
# Coroutines come to the acts of the direct form

The exchanges of a session are told twice: one act after the other (`Session.Direct`), and as coroutines in
an event loop (`Session.Async`). This module shows that both tell the same, where the direct form sleeps as the
event loop does. Whatever holds of `Direct.step` in a manner so holds of `Step.perform` in that manner.

## The simulation

`Coroutine.RunsAs t c x` says that the event loop over the transport `t` does for the coroutine `c`
what the exchange `x` does, in every world. It holds of each single act and of its counterpart, and it
passes through sequencing (`RunsAs.bind`), so it holds of each operation of a session; the loop of
receives takes an induction on the attempts that are left.

## What is proved

* `perform_eq` — **a step does what its direct form does**, in either manner: the same outcome, calls, delays
  and notices, and the same rest of the script.
* `runSteps_unclosed` — how the transport of a session is closed shows in nothing but the calls that
  close it.
-/

namespace PortMap.Net

/-! ### Closings -/

/-- A closing for callers that cannot wait for it: it is over at once, if there is one. -/
def Closing.plain : Closing → Closing
  | .absent => .absent
  | .immediate | .awaited => .immediate

/-- Whether a call closes the socket. -/
def Call.isClose : Call → Bool
  | .close => true
  | _ => false

namespace World

/-- The world after a transport was closed that is closed in the way given. -/
def closed (w : World) : Closing → World
  | .absent => w
  | .immediate | .awaited => w.call .close

/-- The world without the calls that closed the socket. -/
def unclosed (w : World) : World := { w with calls := w.calls.filter fun c => !c.isClose }

theorem closed_plain (w : World) (c : Closing) : w.closed c.plain = w.closed c := by
  cases c <;> rfl

theorem unclosed_closed (w : World) (c : Closing) : (w.closed c).unclosed = w.unclosed := by
  cases c <;> simp [closed, unclosed, World.call, Call.isClose]

theorem untraced_unclosed (w : World) : w.unclosed.untraced = w.untraced := rfl

end World

end PortMap.Net

namespace PortMap.Session

open Wire Net

variable {α β : Type}

namespace Coroutine

/-- What the event loop does for one coroutine after the other. -/
theorem run_bind (t : Transport) (c : Coroutine α) (f : α → Coroutine β) (w : World) :
    (c >>= f).run t w = match c.run t w with
      | (.ok a, u) => (f a).run t u
      | (.error e, u) => (.error e, u) := by
  change (c.bind f).run t w = _
  induction c generalizing w with
  | done r => cases r <;> rfl
  | send d next ih => simp only [bind, run, ih]
  | recv size next ih => simp only [bind, run, ih]
  | sleep d next ih => simp only [bind, run, ih]
  | note n next ih => simp only [bind, run, ih]
  | close next ih =>
    simp only [bind, run]
    cases t.closing <;> simp only [ih]
  | closed next ih => simp only [bind, run, ih]

/-- The event loop over a transport does for the coroutine what the exchange does. -/
def RunsAs (t : Transport) (c : Coroutine α) (x : Exchange α) : Prop := ∀ w, c.run t w = x w

variable {t : Transport}

theorem RunsAs.bind {c : Coroutine α} {x : Exchange α} {f : α → Coroutine β} {g : α → Exchange β}
    (h : c.RunsAs t x) (hf : ∀ a, (f a).RunsAs t (g a)) : (c >>= f).RunsAs t (x >>= g) := by
  intro w
  rw [run_bind, Exchange.bind_apply, h w]
  rcases x w with ⟨e | a, u⟩
  · rfl
  · exact hf a u

theorem runsAs_pure (a : α) : (pure a : Coroutine α).RunsAs t (pure a) := fun _ => rfl

theorem runsAs_settle (r : Except Fault α) : (settle r).RunsAs t (Exchange.settle r) := fun _ => rfl

theorem runsAs_fault (e : Fault) : (settle (.error e) : Coroutine α).RunsAs t (throw e) := fun _ => rfl

theorem runsAs_sending (d : Bytes) : (sending d).RunsAs t (Exchange.act (t.send d)) := fun _ => rfl

theorem runsAs_receiving (size : Int) :
    (receiving size).RunsAs t (Exchange.act (t.recv size)) := fun _ => rfl

/-- The event loop sleeps, and tells the coroutine if it would not. -/
theorem runsAs_sleeping (d : Value) :
    (sleeping d >>= fun slept => settle (slept.mapError .wait)).RunsAs t (Exchange.sleep .async d) :=
  fun _ => rfl

theorem runsAs_noting (n : Log.Notice) : (noting n).RunsAs t (Exchange.note n) := fun _ => rfl

theorem RunsAs.map {c : Coroutine α} {x : Exchange α} (g : α → β) (h : c.RunsAs t x) :
    (g <$> c).RunsAs t (g <$> x) := by
  rw [map_eq_pure_bind g x]
  exact h.bind fun a => runsAs_pure (g a)

end Coroutine

/-! ### The operations of a session -/

open Coroutine

variable (s : Session)

/-- A receive that the event loop gives up is a fault of the operating system as any other. -/
theorem isOs_or_isTimeout (f : Failure) : (f.isOs || f.isTimeout) = f.isOs := by
  rcases f with ⟨kind, text⟩
  cases kind <;> rfl

theorem write_runsAs (request : Bytes) :
    (Async.write s request).RunsAs s.transport (Direct.write s request) :=
  (runsAs_sending request).bind fun _ =>
    (runsAs_settle _).bind fun _ => runsAs_noting _

theorem pause_runsAs (attempt : Nat) :
    (Async.pause s attempt).RunsAs s.transport (Direct.pause .async s attempt) := by
  unfold Async.pause Direct.pause
  cases s.backoff with
  | none => exact runsAs_pure ()
  | some schedule => exact (runsAs_settle _).bind fun d => runsAs_sleeping d

theorem readFrom_runsAs (left attempt : Nat) :
    (Async.readFrom s left attempt).RunsAs s.transport (Direct.readFrom .async s left attempt) := by
  induction left generalizing attempt with
  | zero => exact runsAs_fault _
  | succ left ih =>
    unfold Async.readFrom Direct.readFrom
    refine (runsAs_receiving _).bind fun outcome => ?_
    cases outcome with
    | ok d => exact runsAs_settle _
    | error f =>
      simp only [isOs_or_isTimeout]
      split
      · refine (runsAs_noting _).bind fun _ => ?_
        split
        · exact (pause_runsAs s attempt).bind fun _ => ih (attempt + 1)
        · exact ih (attempt + 1)
      · exact runsAs_fault _

theorem read_runsAs : (Async.read s).RunsAs s.transport (Direct.read .async s) :=
  (runsAs_settle _).bind fun n => readFrom_runsAs s n 0

theorem sendMapping_runsAs (protocol : ProtocolChoice) (privatePort publicPort lifetime : Value) :
    (Async.sendMapping s protocol privatePort publicPort lifetime).RunsAs s.transport
      (Direct.sendMapping s protocol privatePort publicPort lifetime) :=
  (runsAs_settle _).bind fun request => write_runsAs s request

theorem publicAddress_runsAs :
    (Async.publicAddress s).RunsAs s.transport (Direct.publicAddress .async s) :=
  (write_runsAs s _).bind fun _ => (read_runsAs s).bind fun _ => runsAs_settle _

theorem mapPort_runsAs (protocol : ProtocolChoice) (privatePort publicPort lifetime : Value) :
    (Async.mapPort s protocol privatePort publicPort lifetime).RunsAs s.transport
      (Direct.mapPort .async s protocol privatePort publicPort lifetime) :=
  (sendMapping_runsAs s protocol privatePort publicPort lifetime).bind fun _ =>
    (read_runsAs s).bind fun _ => (runsAs_settle _).bind fun m =>
      (runsAs_noting _).bind fun _ => runsAs_pure m

theorem unmapPort_runsAs (protocol : ProtocolChoice) (privatePort : Value) :
    (Async.unmapPort s protocol privatePort).RunsAs s.transport
      (Direct.unmapPort .async s protocol privatePort) :=
  (mapPort_runsAs s protocol privatePort _ _).bind fun m =>
    (runsAs_settle _).bind fun _ => (runsAs_noting _).bind fun _ => runsAs_pure m

/-- A closing that is to be waited for is waited for, so it ends as one that is over at once. -/
theorem close_runsAs : (Async.close s).RunsAs s.transport (Direct.close s) := by
  intro w
  unfold Async.close Direct.close
  simp only [run]
  cases s.transport.closing <;> rfl

/-- **Each step, as a coroutine, comes to the acts of its direct form.** -/
theorem step_runsAs (step : Step) :
    (Async.step s step).RunsAs s.transport (Direct.step .async s step) := by
  cases step with
  | publicAddress => exact (publicAddress_runsAs s).map _
  | mapPort protocol a b l => exact (mapPort_runsAs s protocol a b l).map _
  | unmapPort protocol a => exact (unmapPort_runsAs s protocol a).map _
  | sendPublicAddress => exact (write_runsAs s _).map _
  | sendMapping protocol a b l => exact (sendMapping_runsAs s protocol a b l).map _
  | read => exact (read_runsAs s).map _
  | gateway => exact runsAs_pure _
  | setAttempts n => exact runsAs_pure _
  | setBackoff b => exact runsAs_pure _
  | close => exact (close_runsAs s).map _
  | context => exact (close_runsAs s).map _

/-- In either manner a step does what its direct form does. -/
theorem perform_eq (manner : Manner) (step : Step) (w : World) :
    step.perform manner s w = Direct.step manner s step w := by
  cases manner with
  | blocking => rfl
  | async => exact step_runsAs s step w

/-! ### What the closing of a transport changes -/

/-- Sessions that send, receive and wait alike; only how they are closed may differ. -/
structure Alike (s s' : Session) : Prop where
  send : s.transport.send = s'.transport.send
  recv : s.transport.recv = s'.transport.recv
  gateway : s.gateway = s'.gateway
  maxAttempts : s.maxAttempts = s'.maxAttempts
  backoff : s.backoff = s'.backoff

variable {s} {s' : Session} {manner : Manner}

theorem Alike.after (h : Alike s s') (step : Step) : Alike (s.after step) (s'.after step) := by
  obtain ⟨h₁, h₂, h₃, h₄, h₅⟩ := h
  cases step <;> constructor <;> first | rfl | assumption

theorem Alike.write (h : Alike s s') : Direct.write s = Direct.write s' := by
  unfold Direct.write sentNotice
  rw [h.send, h.gateway]

theorem Alike.readFrom (h : Alike s s') (left attempt : Nat) :
    Direct.readFrom manner s left attempt = Direct.readFrom manner s' left attempt := by
  induction left generalizing attempt with
  | zero => rw [Direct.readFrom, Direct.readFrom, h.gateway, h.maxAttempts]
  | succ left ih =>
    simp only [Direct.readFrom, Direct.pause, failedNotice, h.recv, h.gateway, h.maxAttempts,
      h.backoff, ih]

theorem Alike.read (h : Alike s s') : Direct.read manner s = Direct.read manner s' := by
  unfold Direct.read attempts
  simp only [h.maxAttempts, h.readFrom]

theorem close_apply (s : Session) (w : World) :
    Direct.close s w = (.ok (), w.closed s.transport.closing) := by
  unfold Direct.close
  cases s.transport.closing <;> rfl

/-- A step of sessions alike does the same, or closes each of them in its way. -/
theorem perform_alike (h : Alike s s') (step : Step) (w : World) :
    step.perform manner s w = step.perform manner s' w ∨
      ∃ a, step.perform manner s w = (.ok a, w.closed s.transport.closing) ∧
        step.perform manner s' w = (.ok a, w.closed s'.transport.closing) := by
  have shut (s : Session) (a : Answer) :
      ((fun _ => a) <$> Direct.close s) w = (.ok a, w.closed s.transport.closing) := by
    rw [Exchange.map_apply, close_apply]
    rfl
  simp only [perform_eq]
  cases step with
  | close => exact .inr ⟨.nothing, shut s _, shut s' _⟩
  | context => exact .inr ⟨.entered, shut s _, shut s' _⟩
  | _ =>
    left
    simp only [Direct.step, Direct.publicAddress, Direct.mapPort,
      Direct.unmapPort, Direct.sendPublicAddress, Direct.sendMapping, h.write, h.read, h.gateway]

/-- Sessions alike that are closed alike as well leave the same records. -/
theorem runSteps_alike (h : Alike s s')
    (hc : ∀ w : World, w.closed s.transport.closing = w.closed s'.transport.closing) (steps : List Step)
    (w : World) : runSteps manner s steps w = runSteps manner s' steps w := by
  induction steps generalizing s s' w with
  | nil => rfl
  | cons step rest ih =>
    have same : step.perform manner s w.untraced = step.perform manner s' w.untraced := by
      obtain same | ⟨a, e, e'⟩ := perform_alike h step w.untraced
      · exact same
      · rw [e, e', hc]
    have hc' : ∀ w : World, w.closed (s.after step).transport.closing =
        w.closed (s'.after step).transport.closing := by cases step <;> exact hc
    simp only [runSteps, same, ih (h.after step) hc']

/-- The record without the calls that closed the socket. -/
def Record.unclosed (r : Record) : Record := { r with world := r.world.unclosed }

/-- **How a session is closed shows in nothing but the calls that close it.** -/
theorem runSteps_unclosed (h : Alike s s') (steps : List Step) {w w' : World}
    (hw : w.untraced = w'.untraced) :
    (runSteps manner s steps w).map Record.unclosed =
      (runSteps manner s' steps w').map Record.unclosed := by
  induction steps generalizing s s' w w' with
  | nil => rfl
  | cons step rest ih =>
    have same : (step.perform manner s w.untraced).1 = (step.perform manner s' w.untraced).1 ∧
        (step.perform manner s w.untraced).2.unclosed =
          (step.perform manner s' w.untraced).2.unclosed := by
      obtain same | ⟨a, e, e'⟩ := perform_alike h step w.untraced
      · exact ⟨congrArg _ same, congrArg _ (congrArg _ same)⟩
      · rw [e, e', World.unclosed_closed, World.unclosed_closed]
        exact ⟨rfl, rfl⟩
    -- the next step begins with an empty trace, where a closing has left nothing
    have next : (step.perform manner s w.untraced).2.untraced =
        (step.perform manner s' w.untraced).2.untraced := by
      rw [← World.untraced_unclosed, same.2, World.untraced_unclosed]
    simp only [runSteps, List.map_cons, ← hw, ih (h.after step) next]
    simp only [Record.unclosed, same]

end PortMap.Session
