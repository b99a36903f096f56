import PortMap.Proofs.Ipv4.RoundTrip
import PortMap.Proofs.Net.Pieces
import PortMap.Proofs.Net.Timer
import PortMap.Proofs.Net.Transport
import PortMap.Proofs.Schedule
import PortMap.Proofs.Session.Retry

/-!
# Where the two manners part

A session whose calls wait and one in an event loop do the same acts in the same order, and part at one act only:
a sleep in a call may be refused for a time that the event loop sleeps for. This module shows that they part
nowhere else.

## The argument

`Exchange.InStep` says of two exchanges that from every world the second one goes on (`World.Behind`), and the
first one does the same, or ends with a refused sleep at a place where the second one has been (`Parted`). It holds
of each single act, and for a sleep in both manners since what a call can sleep for, the event loop can
(`Timer.sleepAside_of_sleep`). It passes through sequencing (`InStep.bind`), so it holds of each step
(`step_inStep`); an induction on the steps carries it over a run, up to the first sleep that is refused
(`Lockstep`).

## What is proved

* `step_inStep` — each step does the same in both manners, or a sleep in a call is refused.
* `runSteps_lockstep` — so a run leaves the same records up to there.
* `manners_in_lockstep` — **the same for sessions around transports of the caller**, whatever closes them; the
  records are the same if no delay is refused, as in every rehearsal.
* `refused_sleep_parts` — a run in which they do part.
-/

namespace PortMap

namespace Net

/-- One world is behind another: its trace is how the other one begins, and the script that is left to the other is
how its own ends. -/
structure World.Behind (v u : World) : Prop where
  /-- The calls. -/
  calls : v.calls <+: u.calls
  /-- The delays that were asked for. -/
  sleeps : v.sleeps <+: u.sleeps
  /-- The notices. -/
  notices : v.notices <+: u.notices
  /-- The sends to come. -/
  sends : u.sends <:+ v.sends
  /-- The receives to come. -/
  recvs : u.recvs <:+ v.recvs
  /-- Both wait by the same timer. -/
  timer : u.timer = v.timer

namespace World.Behind

variable {w v u : World}

theorem refl (w : World) : w.Behind w :=
  ⟨List.prefix_rfl, List.prefix_rfl, List.prefix_rfl, List.suffix_rfl, List.suffix_rfl, rfl⟩

theorem trans (h : w.Behind v) (h' : v.Behind u) : w.Behind u where
  calls := h.calls.trans h'.calls
  sleeps := h.sleeps.trans h'.sleeps
  notices := h.notices.trans h'.notices
  sends := h'.sends.trans h.sends
  recvs := h'.recvs.trans h.recvs
  timer := h'.timer.trans h.timer

theorem call (w : World) (c : Call) : w.Behind (w.call c) :=
  { refl w with calls := List.prefix_append _ _ }

theorem asked (w : World) (d : Value) : w.Behind (w.asked d) :=
  { refl w with sleeps := List.prefix_append _ _ }

theorem note (w : World) (n : Log.Notice) : w.Behind (w.note n) :=
  { refl w with notices := List.prefix_append _ _ }

end World.Behind

/-- The outcomes that are left are the last ones. -/
theorem Pieces.left_suffix (outcomes : List SendOutcome) (d : Wire.Bytes) :
    (Pieces.ofOutcomes outcomes d).left <:+ outcomes := by
  fun_induction Pieces.ofOutcomes outcomes d with
  | case1 d => exact List.suffix_rfl
  | case2 d rest => exact List.suffix_cons _ _
  | case3 d f rest => exact List.suffix_cons _ _
  | case4 d n rest enough => exact List.suffix_cons _ _
  | case5 d n rest _ _ ih => exact ih.trans (List.suffix_cons _ _)

/-- A send goes on. -/
theorem Transport.send_behind (t : Transport) (d : Wire.Bytes) (w : World) : w.Behind (t.send d w).2 := by
  cases t with
  | direct | waiting =>
    rw [send, World.send_world]
    exact { World.Behind.call w (.send d) with sends := List.drop_suffix _ _ }
  | polled timeout =>
    rw [send_polled_world]
    exact { World.Behind.refl w with
      calls := List.prefix_append _ _
      sends := Pieces.left_suffix w.sends d }

/-- A receive goes on. -/
theorem Transport.recv_behind (t : Transport) (size : Int) (w : World) : w.Behind (t.recv size w).2 := by
  have bare : w.Behind (w.recv size).2 := by
    rw [World.recv_world]
    exact { World.Behind.call w (.recv size) with recvs := List.drop_suffix _ _ }
  have cut : w.Behind (w.recvCut size).2 := by
    unfold World.recvCut
    rcases received : w.recv size with ⟨_ | _, u⟩ <;> rw [received] at bare <;> exact bare
  cases t with
  | direct closing => exact bare
  | waiting => exact cut
  | polled timeout =>
    simp only [recv, World.recvBefore]
    rcases deadlineAtStart timeout with e | _ | _
    · exact .refl w
    · rcases received : w.recvCut size with ⟨_ | _, u⟩ <;> rw [received] at cut <;> exact cut
    · exact .refl w

end Net

namespace Session

open Wire Net

variable {α β : Type}

/-! ### Exchanges in step -/

/-- Of two exchanges, the first one ends where it is refused a sleep, at a place where the second one has been. The
delay is one of those that may be asked for. If the event loop refuses it as well, the second one ends there, too. -/
structure Parted (delays : Value → Prop) (timer : Timer) (x y : Except Fault α × World) : Prop where
  /-- The sleep was the last act. -/
  refused : ∃ before d cause, x.2.sleeps = before ++ [d] ∧ delays d ∧ timer.sleep d = .error cause ∧
    x.1 = .error (.wait cause) ∧
    ∀ cause', timer.sleepAside d = .error cause' → y = (.error (.wait cause'), x.2)
  /-- The second one has been there. -/
  behind : x.2.Behind y.2

namespace Exchange

/-- From every world the second exchange goes on, and the first one does the same, or is refused a sleep. -/
def InStep (delays : Value → Prop) (x y : Exchange α) : Prop :=
  ∀ w, w.Behind (y w).2 ∧ (x w = y w ∨ Parted delays w.timer (x w) (y w))

namespace InStep

variable {delays : Value → Prop} {x y : Exchange α}

/-- An exchange that goes on is in step with itself. -/
theorem same (h : ∀ w : World, w.Behind (x w).2) : InStep delays x x := fun w => ⟨h w, .inl rfl⟩

theorem settle (r : Except Fault α) : InStep delays (Exchange.settle r) (Exchange.settle r) := same .refl

theorem pure (a : α) : InStep delays (Pure.pure a : Exchange α) (Pure.pure a) := same .refl

theorem throw (e : Fault) : InStep delays (MonadExcept.throw e : Exchange α) (MonadExcept.throw e) := same .refl

theorem note (n : Log.Notice) : InStep delays (Exchange.note n) (Exchange.note n) := same (World.Behind.note · n)

theorem send (t : Transport) (d : Bytes) :
    InStep delays (Exchange.act (t.send d)) (Exchange.act (t.send d)) := same (t.send_behind d)

theorem recv (t : Transport) (size : Int) :
    InStep delays (Exchange.act (t.recv size)) (Exchange.act (t.recv size)) := same (t.recv_behind size)

/-- **The two manners of sleeping.** -/
theorem sleep {d : Value} (asks : delays d) :
    InStep delays (Exchange.sleep .blocking d) (Exchange.sleep .async d) := by
  intro w
  rw [sleep_apply, sleep_apply, Manner.wait, Manner.wait]
  refine ⟨.asked w d, ?_⟩
  cases slept : w.timer.sleep d with
  | ok _ =>
    rw [Timer.sleepAside_of_sleep slept]
    exact .inl rfl
  | error cause =>
    refine .inr ⟨⟨w.sleeps, d, cause, rfl, asks, slept, rfl, fun cause' aside => ?_⟩, .refl _⟩
    rw [aside]
    rfl

/-- What follows goes on from where the second exchange has been. -/
theorem bind {f g : α → Exchange β} (h : InStep delays x y) (hf : ∀ a, InStep delays (f a) (g a)) :
    InStep delays (x >>= f) (y >>= g) := by
  intro w
  obtain ⟨goes, alike | ⟨⟨before, d, cause, last, asks, refuses, fault, aside⟩, behind⟩⟩ := h w
  · rw [bind_apply, bind_apply, alike]
    rcases hy : y w with ⟨e | a, u⟩ <;> rw [hy] at goes
    · exact ⟨goes, .inl rfl⟩
    · obtain ⟨more, outcome⟩ := hf a u
      rw [goes.timer] at outcome
      exact ⟨goes.trans more, outcome⟩
  · have ended : (x >>= f) w = (.error (.wait cause), (x w).2) := bind_error (Prod.ext fault rfl) f
    rw [ended]
    rcases hy : y w with ⟨e | a, u⟩ <;> rw [hy] at goes behind aside
    · rw [bind_error hy]
      refine ⟨goes, .inr ⟨⟨before, d, cause, last, asks, refuses, rfl, fun cause' both => ?_⟩, behind⟩⟩
      cases aside cause' both
      rfl
    · rw [bind_ok hy]
      obtain ⟨more, -⟩ := hf a u
      refine ⟨goes.trans more, .inr ⟨⟨before, d, cause, last, asks, refuses, rfl, fun cause' both => ?_⟩,
        behind.trans more⟩⟩
      cases aside cause' both

/-- After a value is settled, what follows need be in step for that value only. -/
theorem settle_bind {r : Except Fault α} {f g : α → Exchange β}
    (hf : ∀ a, r = .ok a → InStep delays (f a) (g a)) :
    InStep delays (Exchange.settle r >>= f) (Exchange.settle r >>= g) := by
  cases r with
  | error e => exact fun w => ⟨.refl w, .inl rfl⟩
  | ok a => exact hf a rfl

theorem map (f : α → β) (h : InStep delays x y) : InStep delays (f <$> x) (f <$> y) := by
  rw [map_eq_pure_bind f x, map_eq_pure_bind f y]
  exact h.bind fun a => .pure (f a)

end InStep

end Exchange

/-! ### Steps in step -/

open Exchange

variable {delays : Value → Prop} {s : Session} {steps : List Step}

/-- A delay of a schedule that is in use: the session has it, or a step sets it. -/
def InUse (s : Session) (steps : List Step) (d : Value) : Prop :=
  ∃ (b : Schedule) (n : Int), (s.backoff = some b ∨ .setBackoff (some b) ∈ steps) ∧ b.delay n = .ok d

/-- After a step there are no more in use. -/
theorem InUse.of_after {step : Step} {d : Value} (h : (s.after step).InUse steps d) :
    s.InUse (step :: steps) d := by
  obtain ⟨b, n, has | sets, given⟩ := h
  · refine ⟨b, n, ?_, given⟩
    cases step with
    | setBackoff backoff => exact .inr (has ▸ List.mem_cons_self ..)
    | _ => exact .inl has
  · exact ⟨b, n, .inr (List.mem_cons_of_mem step sets), given⟩

theorem write_inStep (request : Bytes) : InStep delays (Direct.write s request) (Direct.write s request) :=
  (InStep.send _ _).bind fun _ => (InStep.settle _).bind fun _ => .note _

theorem sendMapping_inStep (protocol : ProtocolChoice) (privatePort publicPort lifetime : Value) :
    InStep delays (Direct.sendMapping s protocol privatePort publicPort lifetime)
      (Direct.sendMapping s protocol privatePort publicPort lifetime) :=
  (InStep.settle _).bind write_inStep

theorem close_inStep : InStep delays (Direct.close s) (Direct.close s) := by
  unfold Direct.close
  cases s.transport.closing with
  | absent => exact .pure ()
  | immediate | awaited => exact .same (World.Behind.call · .close)

section

variable (uses : ∀ d, s.InUse steps d → delays d)

include uses

theorem pause_inStep (attempt : Nat) :
    InStep delays (Direct.pause .blocking s attempt) (Direct.pause .async s attempt) := by
  unfold Direct.pause
  cases scheduled : s.backoff with
  | none => exact .pure ()
  | some b =>
    refine InStep.settle_bind fun d given => .sleep (uses d ⟨b, attempt, .inl scheduled, ?_⟩)
    cases delayed : b.delay attempt with
    | error e =>
      rw [delayed] at given
      cases given
    | ok d' =>
      rw [delayed] at given
      cases given
      rfl

theorem readFrom_inStep (left attempt : Nat) :
    InStep delays (Direct.readFrom .blocking s left attempt) (Direct.readFrom .async s left attempt) := by
  induction left generalizing attempt with
  | zero => exact .throw _
  | succ left ih =>
    unfold Direct.readFrom
    refine (InStep.recv _ _).bind fun outcome => ?_
    cases outcome with
    | ok d => exact .settle _
    | error f =>
      simp only
      split
      · refine (InStep.note _).bind fun _ => ?_
        split
        · exact (pause_inStep uses attempt).bind fun _ => ih (attempt + 1)
        · exact ih (attempt + 1)
      · exact .throw _

theorem read_inStep : InStep delays (Direct.read .blocking s) (Direct.read .async s) :=
  (InStep.settle _).bind fun n => readFrom_inStep uses n 0

theorem mapPort_inStep (protocol : ProtocolChoice) (privatePort publicPort lifetime : Value) :
    InStep delays (Direct.mapPort .blocking s protocol privatePort publicPort lifetime)
      (Direct.mapPort .async s protocol privatePort publicPort lifetime) :=
  (sendMapping_inStep protocol privatePort publicPort lifetime).bind fun _ =>
    (read_inStep uses).bind fun _ => (InStep.settle _).bind fun _ => (InStep.note _).bind fun _ => .pure _

/-- **Each step does the same in both manners**, or a sleep in a call is refused. -/
theorem step_inStep (step : Step) :
    InStep delays (Direct.step .blocking s step) (Direct.step .async s step) := by
  have mapping (protocol : ProtocolChoice) (privatePort publicPort lifetime : Value) :=
    mapPort_inStep uses protocol privatePort publicPort lifetime
  cases step with
  | publicAddress =>
    exact ((write_inStep _).bind fun _ => (read_inStep uses).bind fun _ => .settle _).map _
  | mapPort protocol a b l => exact (mapping protocol a b l).map _
  | unmapPort protocol a =>
    exact ((mapping protocol a _ _).bind fun m => (InStep.settle _).bind fun _ =>
      (InStep.note _).bind fun _ => .pure m).map _
  | sendPublicAddress => exact (write_inStep _).map _
  | sendMapping protocol a b l => exact (sendMapping_inStep protocol a b l).map _
  | read => exact (read_inStep uses).map _
  | gateway | setAttempts | setBackoff => exact .pure _
  | close | context => exact close_inStep.map _

end

/-! ### Runs in step -/

/-- Two runs leave the same records up to the first step in which they part, and as many after it. -/
inductive Lockstep (delays : Value → Prop) (timer : Timer) : List Record → List Record → Prop
  /-- No step is left. -/
  | nil : Lockstep delays timer [] []
  /-- A step leaves the same record. -/
  | same (r : Record) {rest rest' : List Record} : Lockstep delays timer rest rest' →
      Lockstep delays timer (r :: rest) (r :: rest')
  /-- A step is refused a sleep in the first run. -/
  | parted {r r' : Record} {rest rest' : List Record} :
      Parted delays timer (r.outcome, r.world) (r'.outcome, r'.world) → rest.length = rest'.length →
      Lockstep delays timer (r :: rest) (r' :: rest')

namespace Lockstep

variable {timer : Timer} {records records' : List Record}

/-- A run in which no sleep was refused leaves the records of the other one. -/
theorem eq_of_unrefused (h : Lockstep delays timer records records')
    (unrefused : ∀ r ∈ records, ∀ cause, r.outcome ≠ .error (.wait cause)) : records = records' := by
  induction h with
  | nil => rfl
  | same r _ ih => rw [ih fun r' hr' => unrefused r' (List.mem_cons_of_mem r hr')]
  | parted parted _ =>
    obtain ⟨before, d, cause, -, -, -, fault, -⟩ := parted.refused
    exact absurd fault (unrefused _ (List.mem_cons_self ..) cause)

/-- So does a run beside one that asks for no delay that could be refused. -/
theorem eq_of_taken (h : Lockstep delays timer records records')
    (taken : ∀ r ∈ records', ∀ d ∈ r.world.sleeps, delays d → timer.sleep d = .ok ()) : records = records' := by
  induction h with
  | nil => rfl
  | same r _ ih => rw [ih fun r' hr' => taken r' (List.mem_cons_of_mem r hr')]
  | @parted r r' rest rest' parted _ =>
    obtain ⟨before, d, cause, last, asks, refuses, -⟩ := parted.refused
    have asked : d ∈ r'.world.sleeps := by
      refine parted.behind.sleeps.subset ?_
      rw [last]
      exact List.mem_append_right before (List.mem_singleton_self d)
    exact nomatch refuses.symm.trans (taken r' (List.mem_cons_self ..) d asked asks)

end Lockstep

theorem length_runSteps (manner : Manner) (s : Session) (steps : List Step) (w : World) :
    (runSteps manner s steps w).length = steps.length := by
  induction steps generalizing s w with
  | nil => rfl
  | cons step rest ih => rw [runSteps, List.length_cons, ih, List.length_cons]

/-- **A run leaves the same records in both manners**, up to the first sleep in a call that is refused. -/
theorem runSteps_lockstep (s : Session) (steps : List Step) (w : World)
    (uses : ∀ d, s.InUse steps d → delays d) :
    Lockstep delays w.timer (runSteps .blocking s steps w) (runSteps .async s steps w) := by
  induction steps generalizing s w with
  | nil => exact .nil
  | cons step rest ih =>
    obtain ⟨goes, outcome⟩ := step_inStep uses step w.untraced
    simp only [runSteps, perform_eq]
    rcases outcome with alike | parted
    · rw [alike, ← show _ = w.timer from goes.timer]
      exact .same _ (ih _ _ fun d used => uses d used.of_after)
    · exact .parted parted (by rw [length_runSteps, length_runSteps])

/-! ### Sessions around a transport of the caller -/

/-- Makes a session around a transport that is closed in the way given, and performs steps. -/
def wrapAndRun (manner : Manner) (closing : Closing) (gateway attempts : Value)
    (backoff : Option Schedule) (steps : List Step) (w : World) : Except Fault (List Record) :=
  (wrap (.direct closing) gateway attempts backoff).map fun s => runSteps manner s steps w

theorem wrapAndRun_eq (manner : Manner) (closing : Closing) (gateway attempts : Value)
    (backoff : Option Schedule) (steps : List Step) (w : World) :
    wrapAndRun manner closing gateway attempts backoff steps w =
      match Address.ofValue gateway with
      | .error e => .error (.address e)
      | .ok a => .ok (runSteps manner ⟨.direct closing, a, attempts, backoff⟩ steps w) := by
  unfold wrapAndRun wrap
  cases Address.ofValue gateway <;> rfl

theorem alike_direct (c c' : Closing) (a : Address) (attempts : Value) (backoff : Option Schedule) :
    Alike ⟨.direct c, a, attempts, backoff⟩ ⟨.direct c', a, attempts, backoff⟩ :=
  ⟨rfl, rfl, rfl, rfl, rfl⟩

/-- **Sessions of both manners are the same machine but for the sleeps that a call refuses**: around transports
with the same script, whatever the gateway, the attempts and the delays.

* Either both are made or neither, for the same fault.
* Any steps have the same outcomes and leave the same trace and the same rest of the script, up to the first one
  that ends, with calls that wait, where a sleep is refused: it has done what the other one has done, up to there,
  and the delay is one of a schedule in use. If the event loop refuses it as well, both end there.
* So the records are the same if none tells of a refused sleep, if every delay that is asked for in the event loop
  can be slept for in a call, or if every delay of the schedules in use can; and in every rehearsal.

A closing that is waited for is the same as one that is over at once, and none at all differs from them in the call
that closes only. -/
theorem manners_in_lockstep (closing closing' : Closing) (gateway attempts : Value)
    (backoff : Option Schedule) (steps : List Step) (w : World) :
    let run (manner : Manner) (closing : Closing) := wrapAndRun manner closing gateway attempts backoff steps w
    let inUse (d : Value) : Prop :=
      ∃ (b : Schedule) (n : Int), (backoff = some b ∨ .setBackoff (some b) ∈ steps) ∧ b.delay n = .ok d
    (∀ e, run .blocking closing.plain = .error e ↔ run .async closing = .error e) ∧
    (∀ records records', run .blocking closing.plain = .ok records → run .async closing = .ok records' →
      Lockstep inUse w.timer records records' ∧
      ((∀ r ∈ records, ∀ cause, r.outcome ≠ .error (.wait cause)) → records = records') ∧
      ((∀ r ∈ records', ∀ d ∈ r.world.sleeps, w.timer.sleep d = .ok ()) → records = records') ∧
      ((∀ d, inUse d → w.timer.sleep d = .ok ()) → records = records') ∧
      (w.timer = .rehearsal → records = records')) ∧
    ∀ manner, (run manner closing).map (·.map Record.unclosed) = (run manner closing').map (·.map Record.unclosed) := by
  intro run inUse
  simp only [run, wrapAndRun_eq]
  cases Address.ofValue gateway with
  | error e => exact ⟨fun e => .rfl, nofun, fun manner => rfl⟩
  | ok a =>
    refine ⟨fun e => iff_of_false nofun nofun, fun records records' made made' => ?_, fun manner =>
      congrArg Except.ok (runSteps_unclosed (alike_direct _ _ a attempts backoff) steps rfl)⟩
    cases made
    cases made'
    rw [runSteps_alike (alike_direct closing closing.plain a attempts backoff)
      (fun w => (w.closed_plain closing).symm) steps w]
    have lockstep : Lockstep inUse w.timer _ _ :=
      runSteps_lockstep ⟨.direct closing.plain, a, attempts, backoff⟩ steps w fun d used => used
    refine ⟨lockstep, lockstep.eq_of_unrefused, fun taken => ?_, fun taken => ?_, fun rehearsal => ?_⟩
    · exact lockstep.eq_of_taken fun r hr d hd _ => taken r hr d hd
    · exact lockstep.eq_of_taken fun r hr d hd used => taken d used
    · refine lockstep.eq_of_taken fun r hr d hd _ => ?_
      rw [rehearsal]
      rfl

/-- The delays of the standing schedule, but that the first one is a second less than nothing. -/
def backwards : Schedule := { first := .real (Binary64.one.withSign true) }

theorem delay_backwards : backwards.delay (0 : ℕ) = .ok (.real (Binary64.one.withSign true)) := by
  have power : (Value.real .two).power 0 = .ok (.real .one) := by
    have whole : Binary64.two.pow (.ofInt 0) = some .one := by decide +kernel
    rw [Schedule.power_real, Binary64.ofInt?_eq_some (by decide)]
    simp only [Nat.cast_zero, whole]
  have product : (Binary64.one.withSign true).mul .one = Binary64.one.withSign true := by decide +kernel
  have notAbove : Binary64.sixtyFour.lt (Binary64.one.withSign true) = false := by decide +kernel
  rw [Schedule.delay_of_power (c := .sixtyFour) rfl rfl power, product, notAbove]
  rfl

/-- By a clock that runs, a delay of a second less than nothing ends a read with calls that wait after the first
attempt; in the event loop the read attempts once more. -/
theorem refused_sleep_parts :
    let run (manner : Manner) := wrapAndRun manner .immediate (.text (Address.text ⟨10, 0, 0, 1⟩)) (.whole 2)
      (some backwards) [.read] { timer := .running }
    ∃ u v, run .blocking = .ok [⟨.error (.wait .sleepBelowZero), u⟩] ∧
      run .async = .ok [⟨.error (.noReply ⟨10, 0, 0, 1⟩ (.whole 2)), v⟩] ∧
      u.calls = [.recv 16] ∧ v.calls = [.recv 16, .recv 16] ∧ u.sleeps = v.sleeps := by
  intro run
  let s : Session := ⟨.direct .immediate, ⟨10, 0, 0, 1⟩, .whole 2, some backwards⟩
  let w : World := { timer := .running }
  have ran (manner : Manner) {e : Fault} {u : World} (read : Direct.readFrom manner s 2 0 w = (.error e, u)) :
      run manner = .ok [⟨.error e, u⟩] := by
    have performed : Step.read.perform manner s w.untraced = (.error e, u) := by
      refine (perform_read manner (m := 2) rfl w).trans ?_
      rw [show (2 : Int).toNat = 2 from rfl, read]
      rfl
    have made : run manner = .ok (runSteps manner s [.read] w) := by
      simp only [run, wrapAndRun_eq, Address.ofValue_text]
      rfl
    rw [made, runSteps, performed]
    rfl
  have fails : ∀ i, (w.outcome i).osFailure?.isSome := fun _ => rfl
  have refuses : waitFault .blocking .running s.backoff 0 = some .sleepBelowZero := by
    have slept : Manner.blocking.wait .running (.real (Binary64.one.withSign true)) = .error .sleepBelowZero := by
      decide +kernel
    simp only [waitFault, s, Option.bind_some, delay_backwards, slept]
  have passes : Passes .async .running s.backoff 0 := by
    have slept : Manner.async.wait .running (.real (Binary64.one.withSign true)) = .ok () := by decide +kernel
    exact passes_some_iff.mpr ⟨_, delay_backwards, slept⟩
  have refused : Direct.readFrom .blocking s 2 0 w = (.error (.wait .sleepBelowZero), afterReads s w 1 1) :=
    readFrom_of_waitFault (n := 0) rfl (fun i _ => fails i) (fun i hi => absurd hi (Nat.not_lt_zero i)) refuses 0
  have silent : Direct.readFrom .async s 2 0 w = (.error (.noReply s.gateway s.maxAttempts), afterReads s w 2 1) :=
    readFrom_of_allFail rfl (fun i _ => fails i) fun i hi => by
      obtain rfl : i = 0 := by omega
      exact passes
  exact ⟨_, _, ran .blocking refused, ran .async silent, rfl, rfl, rfl⟩

end Session

end PortMap
