import PortMap.Proofs.Net.Timer
import PortMap.Proofs.Net.Transport
import PortMap.Proofs.Schedule
import PortMap.Proofs.Session.Retry

/-!
# Reads without a reply, and growing delays

What a read comes to when no receive succeeds, over every kind of transport, and with the delays of a
schedule of positive numbers between the attempts.

The argument is by the attempts that are left. `FailsNext t k w` says that the next `k` receives of a
transport fail with faults of the operating system; `Attempted s w n p u` says what `n` failed attempts and
`p` pauses have added to a world. One failed attempt takes the one from a world to the next
(`Attempted.receive`), one pause that is passed does so too (`Attempted.pause`), and the loop of receives is a
sequence of both (`readFrom_waited`).

## What is proved

* `perform_read_of_waits` — if every delay is passed, the attempts are used up, and the read says so.
* `perform_read_of_fault` — the first delay without a value ends the read instead.
* `growing_delays_end_reads` — **what follows for schedules of positive numbers**: a delay never exceeds the
  ceiling, but it has no value where the power of the factor is too large for the format. That happens to
  every schedule at some attempt, and to one that doubles at the attempts from 1024 on exactly.
-/

namespace PortMap

namespace Net

/-- Over a transport that hands on what the network gives, the next outcomes are failures. -/
theorem failsNext_direct_iff (closing : Closing) (k : Nat) (w : World) :
    FailsNext (.direct closing) k w ↔ ∀ i < k, (w.outcome i).osFailure?.isSome := by
  induction k generalizing w with
  | zero => simp [FailsNext]
  | succ k ih =>
    have first : (∃ f, (w.outcome 0).given = .error f ∧ f.isOs = true) ↔ (w.outcome 0).osFailure?.isSome := by
      cases w.outcome 0 with
      | datagram d => simp [RecvOutcome.given, RecvOutcome.osFailure?]
      | fails f => by_cases os : f.isOs <;> simp [RecvOutcome.given, RecvOutcome.osFailure?, os]
    have next (i : Nat) : ((Transport.direct closing).recv 16 w).2.outcome i = w.outcome (i + 1) := by
      rw [Transport.recv, World.recv_eq]
      simp [World.outcome, List.getD_eq_getElem?_getD]
    have given : ((Transport.direct closing).recv 16 w).1 = (w.outcome 0).given := by
      rw [Transport.recv, World.recv_eq]
    rw [FailsNext, ih, given, first]
    simp only [next]
    constructor
    · rintro ⟨zero, rest⟩ i hi
      cases i with
      | zero => exact zero
      | succ i => exact rest i (by omega)
    · intro all
      exact ⟨all 0 (by omega), fun i hi => all (i + 1) (by omega)⟩

end Net

namespace Session

open Net

variable {manner : Manner} {s : Session} {w u : World} {n p k : Nat}

/-! ### Failed attempts -/

/-- What failed attempts and pauses have added to a world. -/
structure Attempted (s : Session) (w : World) (attempts pauses : Nat) (u : World) : Prop where
  /-- Each attempt has asked the socket once, if at all. -/
  calls : u.calls = w.calls ++ (List.replicate attempts (s.transport.asks 16)).flatten
  /-- Each pause has asked to sleep for the delay of its attempt. -/
  sleeps : u.sleeps = w.sleeps ++ delays s.backoff pauses
  /-- Each attempt has been noted. -/
  notices : ∃ failures : List Failure, failures.length = attempts ∧
    u.notices = w.notices ++ failures.mapIdx s.failedNotice
  /-- The timer is the same. -/
  timer : u.timer = w.timer

theorem Attempted.refl (s : Session) (w : World) : Attempted s w 0 0 w where
  calls := by simp
  sleeps := by cases h : s.backoff <;> simp [delays]
  notices := ⟨[], rfl, by simp⟩
  timer := rfl

/-- One more attempt has failed. -/
theorem Attempted.receive (h : Attempted s w n p u) (f : Failure) :
    Attempted s w (n + 1) p ((s.transport.recv 16 u).2.note (s.failedNotice n f)) where
  calls := by
    rw [World.note, (s.transport.recv_frame 16 u).1, h.calls, List.replicate_succ', List.flatten_append,
      List.append_assoc, List.flatten_singleton]
  sleeps := by rw [World.note, (s.transport.recv_frame 16 u).2.1, h.sleeps]
  notices := by
    obtain ⟨failures, rfl, noted⟩ := h.notices
    refine ⟨failures ++ [f], by simp, ?_⟩
    rw [World.note, (s.transport.recv_frame 16 u).2.2, noted, List.mapIdx_append]
    simp
  timer := (s.transport.recv_timer 16 u).trans h.timer

/-- One more pause has passed. -/
theorem Attempted.pause (h : Attempted s w n p u) :
    Attempted s w n (p + 1) { u with sleeps := u.sleeps ++ delayAfter s.backoff p } where
  calls := h.calls
  sleeps := by rw [delays_succ, ← List.append_assoc, ← h.sleeps]
  notices := h.notices
  timer := h.timer

/-- A receive as an act of an exchange. -/
theorem receive_of_given {given : Except Failure Wire.Bytes} (h : (s.transport.recv 16 u).1 = given) :
    Exchange.act (s.transport.recv Wire.areaSize) u = (.ok given, (s.transport.recv 16 u).2) := by
  rw [Exchange.act_apply]
  exact Prod.ext (congrArg Except.ok h) rfl

/-- A failed attempt moves the loop on, with a pause unless it was the last one. -/
theorem readFrom_of_fails (h : Attempted s w n p u) (fails : FailsNext s.transport (k + 1) u) (left : Nat) :
    ∃ u', Attempted s w (n + 1) p u' ∧ FailsNext s.transport k u' ∧
      Direct.readFrom manner s (left + 1) n u =
        (do
          if left ≠ 0 then Direct.pause manner s n
          Direct.readFrom manner s left (n + 1) : Exchange Wire.Reply) u' := by
  obtain ⟨⟨f, failed, os⟩, rest⟩ := fails
  exact ⟨_, h.receive f, rest.congr (by rfl), readFrom_of_failed (receive_of_given failed) os⟩

/-- Failed attempts whose delays are passed only move the loop on. -/
theorem readFrom_waited {r : Nat} (fails : FailsNext s.transport (k + r) w)
    (waits : ∀ i < k, Passes manner w.timer s.backoff i) (left : Nat) :
    ∃ u, Attempted s w k k u ∧ FailsNext s.transport r u ∧
      Direct.readFrom manner s (left + 1 + k) 0 w = Direct.readFrom manner s (left + 1) k u := by
  induction k generalizing left r with
  | zero => exact ⟨w, .refl s w, by simpa using fails, rfl⟩
  | succ k ih =>
    obtain ⟨u, attempted, rest, before⟩ := ih (r := r + 1) (by convert fails using 1; omega)
      (fun i hi => waits i (by omega)) (left + 1)
    obtain ⟨u', failed, rest', after⟩ := readFrom_of_fails attempted rest (left + 1)
    refine ⟨_, failed.pause, rest'.congr (by rfl), ?_⟩
    rw [show left + 1 + (k + 1) = left + 1 + 1 + k by omega, before, after, if_pos (by omega),
      Exchange.bind_ok (pause_eq (failed.timer ▸ waits k (by omega)))]

/-- The loop ends when no attempt is left. -/
theorem readFrom_of_failsNext (fails : FailsNext s.transport (k + 1) w)
    (waits : ∀ i < k, Passes manner w.timer s.backoff i) :
    ∃ u, Direct.readFrom manner s (k + 1) 0 w = (.error (.noReply s.gateway s.maxAttempts), u) ∧
      Attempted s w (k + 1) k u := by
  obtain ⟨u, attempted, rest, before⟩ := readFrom_waited fails waits 0
  obtain ⟨u', failed, -, after⟩ := readFrom_of_fails attempted rest 0
  refine ⟨u', ?_, failed⟩
  rw [show k + 1 = 0 + 1 + k by omega, before, after]
  rfl

/-- The loop ends with the first delay that has no value. -/
theorem readFrom_of_failsNext_of_fault {e : Value.Fault} (fails : FailsNext s.transport (k + 1) w)
    (waits : ∀ i < k, Passes manner w.timer s.backoff i) (fault : delayFault s.backoff k = some e) (left : Nat) :
    ∃ u, Direct.readFrom manner s (left + 2 + k) 0 w = (.error (.delay e), u) ∧ Attempted s w (k + 1) k u := by
  obtain ⟨u, attempted, rest, before⟩ := readFrom_waited fails waits (left + 1)
  obtain ⟨u', failed, -, after⟩ := readFrom_of_fails attempted rest (left + 1)
  refine ⟨u', ?_, failed⟩
  rw [show left + 2 + k = left + 1 + 1 + k by omega, before, after, if_pos (by omega),
    Exchange.bind_error (pause_fault fault u')]

/-! ### Reading -/

variable {m : Int}

/-- **If every delay is passed, the attempts are used up**, and the read says so. -/
theorem perform_read_of_waits (manner : Manner) (hm : s.maxAttempts = .whole m) (pos : 1 ≤ m)
    (fails : FailsNext s.transport m.toNat w)
    (waits : ∀ i : Nat, (i : Int) < m - 1 → Passes manner w.timer s.backoff i) :
    (Step.read.perform manner s w).1 = .error (.noReply s.gateway (.whole m)) ∧
      Attempted s w m.toNat (m.toNat - 1) (Step.read.perform manner s w).2 := by
  obtain ⟨k, hk⟩ : ∃ k, m.toNat = k + 1 := ⟨m.toNat - 1, by omega⟩
  rw [hk] at fails
  obtain ⟨u, ended, attempted⟩ := readFrom_of_failsNext fails fun i hi => waits i (by omega)
  rw [perform_read manner hm, hk, ended, hm]
  exact ⟨rfl, attempted⟩

/-- **The first delay without a value ends the read.** -/
theorem perform_read_of_fault (manner : Manner) {j : Nat} {e : Value.Fault} (hm : s.maxAttempts = .whole m)
    (fails : FailsNext s.transport m.toNat w) (within : (j : Int) < m - 1)
    (waits : ∀ i < j, Passes manner w.timer s.backoff i) (fault : delayFault s.backoff j = some e) :
    (Step.read.perform manner s w).1 = .error (.delay e) ∧
      Attempted s w (j + 1) j (Step.read.perform manner s w).2 := by
  obtain ⟨left, hleft⟩ : ∃ left, m.toNat = left + 2 + j := ⟨m.toNat - 2 - j, by omega⟩
  obtain ⟨u, ended, attempted⟩ := readFrom_of_failsNext_of_fault (fails.mono (by omega)) waits fault left
  rw [perform_read manner hm, hleft, ended]
  exact ⟨rfl, attempted⟩

/-! ### Schedules of positive numbers -/

variable {b : Schedule} {start growth cap : ℚ}

/-- A real number from zero on can be slept for, in a call of a clock that runs up to the most seconds. -/
theorem Manner.wait_real {timer : Timer} {d : Binary64} {q : ℚ} (value : d.rational? = some q) (nonneg : 0 ≤ q)
    (most : manner = .blocking → timer = .running → q ≤ Timer.mostSeconds) :
    manner.wait timer (.real d) = .ok () := by
  cases manner with
  | async => exact Timer.sleepAside_real timer d
  | blocking =>
    cases timer with
    | rehearsal => rfl
    | running => exact Timer.counted_real value nonneg (most rfl rfl)

/-- A delay of a schedule whose ceiling can be slept for is passed exactly where the power of the factor has a
value. -/
theorem passes_iff_powerFault {timer : Timer} (h : b.Positive start growth cap)
    (most : manner = .blocking → timer = .running → cap ≤ Timer.mostSeconds) (n : Nat) :
    Passes manner timer (some b) n ↔ b.powerFault n = none := by
  rw [passes_some_iff]
  rcases h.delay_cases n with ⟨d, q, value, rational, nonneg, within⟩ | ⟨cause, failed, delay⟩
  · have none : b.powerFault n = none := by
      cases fault : b.powerFault n with
      | none => rfl
      | some e =>
        rw [Schedule.delay_of_powerFault fault] at value
        cases value
    have waits : manner.wait timer (.real d) = .ok () :=
      Manner.wait_real rational nonneg fun inCall running => within.trans (most inCall running)
    simp [value, none, waits]
  · simp [delay, failed]

/-- Where the power of the factor has no value, the delay has none. -/
theorem delayFault_of_powerFault {n : Nat} {e : Value.Fault} (failed : b.powerFault n = some e) :
    delayFault (some b) n = some e := by
  rw [delayFault, Option.bind_some, Schedule.delay_of_powerFault failed]

/-- A schedule that doubles has a power after each of the first 1024 attempts. -/
theorem powerFault_of_few (h : b.Positive start 2 cap) {n : Nat} (few : n < 1024) : b.powerFault n = none := by
  obtain ⟨z, power, -⟩ := Schedule.power_two_of_few (n := n) (by omega)
  rw [Schedule.powerFault, h.factor_of_doubling, power]

/-- **What growing delays come to**, for every schedule of positive numbers: the first delay, the factor
(`growth`) and the ceiling (`cap`).

* A delay is a number between zero and the ceiling, or the power of the factor has failed, which is worked
  out before the ceiling is looked at.
* It does fail, in every schedule: from the attempt `2 ^ 1024` on, whatever the factor is, and from the
  attempt `2 ^ 63` on if the factor is above one.
* A schedule that doubles has exact delays, up to the ceiling, after the attempts below 1024, and none after
  any other.

So a read over any transport of which all receives fail uses its attempts up only if no power fails before
the last of them; else the first one that fails ends the read, with a fault that is no complaint about the
gateway. A schedule that doubles lasts for 1025 attempts. All this is told of delays that can be slept for: with
calls that wait by a clock that runs, the ceiling is taken to be no more than `Timer.mostSeconds`. -/
theorem growing_delays_end_reads (b : Schedule) (start growth cap : ℚ) (h : b.Positive start growth cap) :
    (∀ n : Int,
      (∃ d q, b.delay n = .ok (.real d) ∧ d.rational? = some q ∧ 0 ≤ q ∧ q ≤ cap) ∨
        ∃ cause, b.powerFault n = some (.number cause) ∧ b.delay n = .error (.number cause)) ∧
    (∀ n : Int, 2 ^ 1024 ≤ n → b.delay n = .error (.number .wholeTooLarge)) ∧
    (1 < growth → ∀ n : Int, 2 ^ 63 ≤ n → ∃ cause, b.delay n = .error (.number cause)) ∧
    (growth = 2 → ∀ n : Int,
      (n < 1024 → ∃ d, b.delay n = .ok (.real d) ∧
        d.rational? = some (min (start * 2 ^ n.toNat) cap)) ∧
      (1024 ≤ n → ∃ cause, b.delay n = .error (.number cause) ∧ (n < 2 ^ 53 → cause = .powerTooLarge))) ∧
    ∀ (manner : Manner) (s : Session) (m : Int) (w : World), s.backoff = some b →
      s.maxAttempts = .whole m → 1 ≤ m → FailsNext s.transport m.toNat w →
      (manner = .blocking → w.timer = .running → cap ≤ Timer.mostSeconds) →
      let read := Step.read.perform manner s w
      ((∀ j : Nat, (j : Int) < m - 1 → b.powerFault j = none) →
        read.1 = .error (.noReply s.gateway (.whole m)) ∧
          Attempted s w m.toNat (m.toNat - 1) read.2) ∧
      (∀ (j : Nat) (e : Value.Fault),
        IsLeast {j : Nat | (j : Int) < m - 1 ∧ (b.powerFault j).isSome} j → b.powerFault j = some e →
        read.1 = .error (.delay e) ∧ (Fault.delay e).complaint? = none ∧
          Attempted s w (j + 1) j read.2) ∧
      (growth = 2 →
        (m ≤ 1025 → read.1 = .error (.noReply s.gateway (.whole m)) ∧
          Attempted s w m.toNat (m.toNat - 1) read.2) ∧
        (1025 < m → read.1 = .error (.delay (.number .powerTooLarge)) ∧
          Attempted s w 1025 1024 read.2)) := by
  refine ⟨h.delay_cases, fun n large => h.delay_of_wholeTooLarge le_rfl large, fun growing n large => ?_,
    fun doubling n => ?_, fun manner s m w backoff hm pos fails most => ⟨fun waits => ?_, fun j e hj he => ?_,
    fun doubling => ⟨fun few => ?_, fun many => ?_⟩⟩⟩
  · obtain ⟨cause, failed⟩ := h.powerFault_of_growing growing large
    exact ⟨cause, Schedule.delay_of_powerFault failed⟩
  · subst doubling
    refine ⟨h.delay_of_doubling, fun many => ?_⟩
    obtain ⟨cause, failed, which⟩ := h.powerFault_of_doubling many
    exact ⟨cause, Schedule.delay_of_powerFault failed, which⟩
  · refine perform_read_of_waits manner hm pos fails fun i hi => ?_
    rw [backoff, passes_iff_powerFault h most, waits i hi]
  · obtain ⟨⟨within, -⟩, least⟩ := hj
    have waits : ∀ i < j, Passes manner w.timer s.backoff i := by
      intro i hi
      rw [backoff, passes_iff_powerFault h most]
      by_contra fault
      exact absurd (least ⟨by omega, Option.isSome_iff_ne_none.mpr fault⟩) (by omega)
    have fault : delayFault s.backoff j = some e := by rw [backoff, delayFault_of_powerFault he]
    obtain ⟨ended, attempted⟩ := perform_read_of_fault manner hm fails within waits fault
    exact ⟨ended, rfl, attempted⟩
  · subst doubling
    refine perform_read_of_waits manner hm pos fails fun i hi => ?_
    rw [backoff, passes_iff_powerFault h most, powerFault_of_few h (by omega)]
  · subst doubling
    obtain ⟨cause, failed, which⟩ := h.powerFault_of_doubling (n := (1024 : Nat)) (by norm_num)
    obtain rfl := which (by norm_num)
    have fault : delayFault s.backoff 1024 = some (.number .powerTooLarge) := by
      rw [backoff, delayFault_of_powerFault failed]
    refine perform_read_of_fault manner hm fails (by omega) (fun i hi => ?_) fault
    rw [backoff, passes_iff_powerFault h most, powerFault_of_few h hi]

/-- The standing schedule ends a read of 1026 attempts after the attempt before the last one. -/
theorem growing_delays_end_reads_standing :
    let s : Session := ⟨.direct .absent, ⟨10, 0, 0, 1⟩, .whole 1026, some {}⟩
    Schedule.Positive {} (1 / 4) 2 64 ∧ FailsNext s.transport 1026 {} ∧
      (Step.read.perform .blocking s {}).1 = .error (.delay (.number .powerTooLarge)) ∧
        Attempted s {} 1025 1024 (Step.read.perform .blocking s {}).2 := by
  intro s
  have fails : FailsNext s.transport 1026 {} := (failsNext_direct_iff _ _ _).mpr fun _ _ => rfl
  have facts := growing_delays_end_reads {} _ _ _ Schedule.positive_standing
  obtain ⟨ended, attempted⟩ := ((facts.2.2.2.2 .blocking s 1026 {} rfl rfl (by norm_num) fails nofun).2.2 rfl).2
    (by norm_num)
  exact ⟨Schedule.positive_standing, fails, ended, attempted⟩

/-- The standing schedule has a ceiling of 64 seconds, and no delay after attempt 1024. -/
theorem standing_delay_breaks_off :
    Schedule.Positive {} (1 / 4) 2 64 ∧
      ({} : Schedule).delay 1024 = .error (.number .powerTooLarge) ∧
      ¬ ∃ d, ({} : Schedule).delay 1024 = .ok d := by
  obtain ⟨cause, failed, which⟩ := Schedule.positive_standing.powerFault_of_doubling (n := 1024) le_rfl
  obtain rfl := which (by norm_num)
  have delay := Schedule.delay_of_powerFault failed
  refine ⟨Schedule.positive_standing, delay, ?_⟩
  rintro ⟨d, value⟩
  rw [delay] at value
  cases value

end Session

end PortMap
