import Mathlib.Algebra.Order.BigOperators.Group.List
import PortMap.Proofs.Session.Backoff
import PortMap.Proofs.Session.FirstDatagram

/-!
# Delays in whole seconds

A schedule of whole numbers is exact: no power is too large and nothing is rounded. This module tells what its
delays are, how they grow, and which of them a read sleeps for. A clock that runs takes whole numbers of seconds
up to a limit, which is low for calls (`Manner.mostWhole`).

## What is proved

* `Schedule.delay_ofWhole` — the delay after an attempt, as a whole number.
* `Schedule.wholeDelay_mono`, `Schedule.wholeDelay_le` — **the delays grow up to the ceiling**, and stay there.
* `readFrom_of_arrival` — a read to which a datagram comes has slept after each attempt that failed before.
* `arrival_of_readFrom` — a read with an answer is one of these.
* `whole_delays_of_reads` — all of it, for every session with such a schedule.
-/

namespace PortMap

namespace Schedule

/-- A schedule of whole numbers. -/
def ofWhole (start growth cap : ℤ) : Schedule := ⟨.whole start, .whole growth, .whole cap⟩

/-- The delay after an attempt, in whole numbers. -/
def wholeDelay (start growth cap n : ℤ) : ℤ := min (start * growth ^ n.toNat) cap

variable {start growth cap n m : ℤ}

/-- **The delay of a schedule of whole numbers.** -/
theorem delay_ofWhole (start growth cap n : ℤ) :
    (ofWhole start growth cap).delay n = .ok (.whole (wholeDelay start growth cap n)) := by
  have power : (Value.whole growth).power n.toNat = .ok (.whole (growth ^ n.toNat)) := rfl
  have product (x : ℤ) : (Value.whole start).times (.whole x) = .ok (.whole (start * x)) := rfl
  have less (x : ℤ) : Value.less (.whole cap) (.whole x) = .ok (decide (cap < x)) := by
    simp [Value.less, Value.number?, Number.lt, Number.exact]
  simp only [delay, ofWhole, power, product, Except.bind, Value.lesser, less, Except.map, wholeDelay]
  rcases lt_or_ge cap (start * growth ^ n.toNat) with above | within
  · simp only [above, decide_true, if_true, min_eq_right above.le]
  · simp only [not_lt.mpr within, decide_false, min_eq_left within]
    rfl

theorem wholeDelay_le (start growth cap n : ℤ) : wholeDelay start growth cap n ≤ cap := min_le_right _ _

theorem wholeDelay_nonneg (hs : 0 ≤ start) (hg : 1 ≤ growth) (hc : 0 ≤ cap) :
    0 ≤ wholeDelay start growth cap n := by
  have power : 0 ≤ growth ^ n.toNat := pow_nonneg (zero_le_one.trans hg) _
  exact le_min (mul_nonneg hs power) hc

/-- **The delays grow**, if the factor is at least one. -/
theorem wholeDelay_mono (hs : 0 ≤ start) (hg : 1 ≤ growth) (h : n ≤ m) :
    wholeDelay start growth cap n ≤ wholeDelay start growth cap m := by
  have power : growth ^ n.toNat ≤ growth ^ m.toNat := pow_le_pow_right₀ hg (Int.toNat_le_toNat h)
  exact min_le_min_right cap (mul_le_mul_of_nonneg_left power hs)

/-- The ceiling is not left again. -/
theorem wholeDelay_eq_cap (hs : 0 ≤ start) (hg : 1 ≤ growth) (h : n ≤ m)
    (reached : wholeDelay start growth cap n = cap) : wholeDelay start growth cap m = cap :=
  le_antisymm (wholeDelay_le ..) (reached.ge.trans (wholeDelay_mono hs hg h))

/-! ### The first delays -/

/-- The delays after the first attempts. -/
def wholeDelays (start growth cap : ℤ) (k : ℕ) : List ℤ :=
  (List.range k).map fun i : ℕ => wholeDelay start growth cap i

theorem length_wholeDelays (start growth cap : ℤ) (k : ℕ) : (wholeDelays start growth cap k).length = k := by
  rw [wholeDelays, List.length_map, List.length_range]

theorem take_wholeDelays (start growth cap : ℤ) {j k : ℕ} (h : j ≤ k) :
    (wholeDelays start growth cap k).take j = wholeDelays start growth cap j := by
  rw [wholeDelays, ← List.map_take, List.take_range, Nat.min_eq_left h, wholeDelays]

theorem pairwise_wholeDelays (hs : 0 ≤ start) (hg : 1 ≤ growth) (k : ℕ) :
    (wholeDelays start growth cap k).Pairwise (· ≤ ·) := by
  rw [wholeDelays, List.pairwise_map]
  exact List.pairwise_lt_range.imp fun before => wholeDelay_mono hs hg (Int.ofNat_le.mpr before.le)

theorem mem_wholeDelays (hs : 0 ≤ start) (hg : 1 ≤ growth) (hc : 0 ≤ cap) {k : ℕ} {d : ℤ}
    (h : d ∈ wholeDelays start growth cap k) : 0 ≤ d ∧ d ≤ cap := by
  obtain ⟨i, -, rfl⟩ := List.mem_map.mp h
  exact ⟨wholeDelay_nonneg hs hg hc, wholeDelay_le ..⟩

theorem sum_wholeDelays_le (start growth cap : ℤ) (k : ℕ) : (wholeDelays start growth cap k).sum ≤ k * cap := by
  have bounded : ∀ d ∈ wholeDelays start growth cap k, d ≤ cap := by
    intro d hd
    obtain ⟨i, -, rfl⟩ := List.mem_map.mp hd
    exact wholeDelay_le ..
  calc (wholeDelays start growth cap k).sum ≤ (wholeDelays start growth cap k).length • cap :=
        List.sum_le_card_nsmul _ cap bounded
    _ = k * cap := by rw [length_wholeDelays, nsmul_eq_mul]

end Schedule

namespace Net

/-- After a number of receives that fail with faults of the operating system, a datagram arrives. -/
def ArrivesAfter (t : Transport) (d : Wire.Bytes) : ℕ → World → Prop
  | 0, w => (t.recv 16 w).1 = .ok d
  | k + 1, w => (∃ f, (t.recv 16 w).1 = .error f ∧ f.isOs = true) ∧ ArrivesAfter t d k (t.recv 16 w).2

theorem ArrivesAfter.congr {t : Transport} {d : Wire.Bytes} {k : ℕ} {w u : World} (h : u.recvs = w.recvs)
    (arrives : ArrivesAfter t d k w) : ArrivesAfter t d k u := by
  induction k generalizing w u with
  | zero => exact (t.recv_congr 16 h).1.trans arrives
  | succ k ih =>
    obtain ⟨same, left⟩ := t.recv_congr 16 h
    exact ⟨same ▸ arrives.1, ih left arrives.2⟩

end Net

namespace Session

open Net

variable {manner : Manner} {s : Session} {w u : World} {n k : ℕ} {d : Wire.Bytes}

/-- The most whole seconds that are taken to be slept for by a clock that runs. -/
def Manner.mostWhole : Manner → ℤ
  | .blocking => Timer.mostSeconds
  | .async => 2 ^ 1023 - 1

/-- Whole seconds from zero on can be slept for, by a clock that runs up to the most. -/
theorem Manner.wait_whole {timer : Timer} {n : ℤ} (nonneg : 0 ≤ n)
    (most : timer = .running → n ≤ manner.mostWhole) : manner.wait timer (.whole n) = .ok () := by
  cases timer with
  | rehearsal => exact manner.wait_rehearsal _
  | running =>
    cases manner with
    | blocking => exact Timer.counted_whole nonneg (most rfl)
    | async =>
      have within : n ≤ 2 ^ 1023 - 1 := most rfl
      have small : n.natAbs < 2 ^ 1023 := by omega
      change Timer.running.sleepAside (.whole n) = .ok ()
      exact Timer.sleepAside_whole small

/-! ### Reads to which a datagram comes -/

/-- **The loop ends with the datagram**, and has slept after each attempt that failed before. -/
theorem readFrom_of_arrival (attempted : Attempted s w n n u) (arrives : ArrivesAfter s.transport d k u)
    (waits : ∀ j < n + k, Passes manner w.timer s.backoff j) (left : ℕ) :
    (Direct.readFrom manner s (left + 1 + k) n u).1 = readReply d ∧
      (Direct.readFrom manner s (left + 1 + k) n u).2.sleeps = w.sleeps ++ delays s.backoff (n + k) := by
  induction k generalizing n u with
  | zero =>
    rw [Nat.add_zero, readFrom_of_received (receive_of_given arrives)]
    exact ⟨rfl, (s.transport.recv_frame 16 u).2.1.trans attempted.sleeps⟩
  | succ k ih =>
    obtain ⟨⟨f, failed, os⟩, later⟩ := arrives
    have next := attempted.receive f
    have same : n + (k + 1) = n + 1 + k := by omega
    rw [same] at waits ⊢
    rw [← Nat.add_assoc, readFrom_of_failed (receive_of_given failed) os, if_pos (by omega),
      Exchange.bind_ok (pause_eq (next.timer ▸ waits n (by omega)))]
    exact ih next.pause (later.congr (by rfl)) waits

/-- A pause that comes to an end is passed. -/
theorem passes_of_pause {j : ℕ} (passed : (Direct.pause manner s j u).1 = .ok ()) :
    Passes manner u.timer s.backoff j := by
  by_contra stops
  rcases not_passes_iff.mp stops with ⟨e, fault⟩ | ⟨e, fault⟩
  · rw [pause_fault fault] at passed
    cases passed
  · rw [pause_refused fault] at passed
    cases passed

/-- Where a read goes on to an answer after a failed receive, the delay after that is passed. -/
theorem moved_of_answered {left : ℕ} {f : Failure} {v : World} {r : Wire.Reply}
    (received : Exchange.act (s.transport.recv Wire.areaSize) u = (.ok (.error f), v)) (os : f.isOs = true)
    (answered : (Direct.readFrom manner s (left + 1) n u).1 = .ok r) :
    ∃ v', v'.recvs = v.recvs ∧
      Direct.readFrom manner s (left + 1) n u = Direct.readFrom manner s left (n + 1) v' := by
  have passes : left ≠ 0 → Passes manner v.timer s.backoff n := by
    intro more
    rw [readFrom_of_failed received os, if_pos more, Exchange.bind_apply] at answered
    refine passes_of_pause (u := v.note (s.failedNotice n f)) ?_
    rcases paused : Direct.pause manner s n (v.note (s.failedNotice n f)) with ⟨e | -, v'⟩
    · rw [paused] at answered
      cases answered
    · rfl
  obtain ⟨v', recvs, -, moved⟩ := readFrom_moves left n received os passes
  exact ⟨v', recvs, moved⟩

/-- **A read with an answer is such a read.** -/
theorem arrival_of_readFrom {left : ℕ} {r : Wire.Reply}
    (answered : (Direct.readFrom manner s left n u).1 = .ok r) :
    ∃ k < left, ∃ d, ArrivesAfter s.transport d k u ∧ readReply d = .ok r := by
  induction left generalizing n u with
  | zero => cases answered
  | succ left ih =>
    have received := Exchange.act_apply (s.transport.recv Wire.areaSize) u
    rcases given : s.transport.recv Wire.areaSize u with ⟨f | d, v⟩ <;> rw [given] at received
    · by_cases os : f.isOs = true
      · obtain ⟨v', recvs, moved⟩ := moved_of_answered received os answered
        rw [moved] at answered
        obtain ⟨k, within, d, arrives, reads⟩ := ih answered
        refine ⟨k + 1, by omega, d, ⟨⟨f, congrArg Prod.fst given, os⟩, ?_⟩, reads⟩
        exact arrives.congr ((congrArg (·.2.recvs) given).trans recvs.symm)
      · rw [Direct.readFrom, Exchange.bind_ok received] at answered
        simp only [os] at answered
        cases answered
    · rw [readFrom_of_received received] at answered
      exact ⟨0, by omega, d, congrArg Prod.fst given, answered⟩

/-! ### Schedules of whole numbers -/

variable {start growth cap : ℤ}

/-- A delay in whole seconds is passed if it can be slept for. -/
theorem passes_ofWhole {timer : Timer} {j p : ℕ} (before : j < p)
    (waits : ∀ d ∈ Schedule.wholeDelays start growth cap p, manner.wait timer (.whole d) = .ok ()) :
    Passes manner timer (some (.ofWhole start growth cap)) j := by
  have among : Schedule.wholeDelay start growth cap j ∈ Schedule.wholeDelays start growth cap p :=
    List.mem_map.mpr ⟨j, List.mem_range.mpr before, rfl⟩
  exact passes_some_iff.mpr ⟨_, Schedule.delay_ofWhole .., waits _ among⟩

theorem delays_ofWhole (start growth cap : ℤ) (k : ℕ) :
    delays (some (.ofWhole start growth cap)) k = (Schedule.wholeDelays start growth cap k).map .whole := by
  simp [delays, Schedule.wholeDelays, Schedule.delayAt, Schedule.delay_ofWhole]

/-- What a read with a schedule of whole numbers sleeps for where no receive succeeds. -/
theorem perform_read_of_fails (manner : Manner) {m : ℤ} (scheduled : s.backoff = some (.ofWhole start growth cap))
    (hm : s.maxAttempts = .whole m) (pos : 1 ≤ m) (fails : FailsNext s.transport m.toNat w)
    (waits : ∀ d ∈ Schedule.wholeDelays start growth cap (m.toNat - 1),
      manner.wait w.timer (.whole d) = .ok ()) :
    (Step.read.perform manner s w).1 = .error (.noReply s.gateway (.whole m)) ∧
      (Step.read.perform manner s w).2.sleeps =
        w.sleeps ++ (Schedule.wholeDelays start growth cap (m.toNat - 1)).map .whole := by
  obtain ⟨ended, attempted⟩ := perform_read_of_waits manner hm pos fails fun j hj => by
    rw [scheduled]
    exact passes_ofWhole (by omega) waits
  refine ⟨ended, ?_⟩
  rw [attempted.sleeps, scheduled, delays_ofWhole]

/-- What it sleeps for where a datagram comes within the attempts. -/
theorem perform_read_of_arrival (manner : Manner) {m : ℤ}
    (scheduled : s.backoff = some (.ofWhole start growth cap)) (hm : s.maxAttempts = .whole m) (within : k < m)
    (arrives : ArrivesAfter s.transport d k w)
    (waits : ∀ d ∈ Schedule.wholeDelays start growth cap k, manner.wait w.timer (.whole d) = .ok ()) :
    (Step.read.perform manner s w).1 = (readReply d).map Answer.reply ∧
      (Step.read.perform manner s w).2.sleeps =
        w.sleeps ++ ((Schedule.wholeDelays start growth cap (m.toNat - 1)).take k).map .whole := by
  obtain ⟨left, hleft⟩ : ∃ left, m.toNat = left + 1 + k := ⟨m.toNat - 1 - k, by omega⟩
  obtain ⟨ended, sleeps⟩ := readFrom_of_arrival (.refl s w) arrives
    (fun j hj => by
      rw [scheduled]
      exact passes_ofWhole (by omega) waits) left
  rw [perform_read manner hm, hleft, ended, sleeps, scheduled, delays_ofWhole,
    Schedule.take_wholeDelays _ _ _ (by omega), Nat.zero_add]
  exact ⟨rfl, rfl⟩

/-- **Delays in whole seconds**, for every first delay and ceiling that are not negative, and every factor that is
at least one. The delay after an attempt is the product with the power of the factor, or the ceiling if that is
smaller; attempts before the first count as the first. The delays grow up to the ceiling, and stay there.

A read without a reply has slept for the delays after all attempts but the last: they are in order, not above the
ceiling, and so is their sum with the ceiling for each of them. A read to which a datagram comes has slept for the
delays after the attempts before, and every read with an answer is one of these. The delays that are reached are
taken to be ones that can be slept for, which all of them are up to `Manner.mostWhole`: in a call that waits by a
clock that runs, up to `Timer.mostSeconds`. -/
theorem whole_delays_of_reads {start growth cap : ℤ} (hs : 0 ≤ start) (hg : 1 ≤ growth) (hc : 0 ≤ cap) :
    let b : Schedule := .ofWhole start growth cap
    let delay (n : ℤ) : ℤ := min (start * growth ^ (max 0 n).toNat) cap
    (∀ n, b.delay n = .ok (.whole (delay n))) ∧
    (∀ n m, n ≤ m → 0 ≤ delay n ∧ delay n ≤ delay m ∧ delay m ≤ cap ∧ (delay n = cap → delay m = cap)) ∧
    ∀ (manner : Manner) (s : Session) (m : ℤ) (w : World), s.backoff = some b → s.maxAttempts = .whole m →
      1 ≤ m →
      let delays : List ℤ := (List.range (m.toNat - 1)).map fun i : ℕ => delay i
      let read := Step.read.perform manner s w
      let waits (l : List ℤ) : Prop := ∀ d ∈ l, manner.wait w.timer (.whole d) = .ok ()
      ((delays.length : ℤ) = m - 1 ∧ delays.Pairwise (· ≤ ·) ∧ (∀ d ∈ delays, 0 ≤ d ∧ d ≤ cap) ∧
        delays.sum ≤ (m - 1) * cap) ∧
      ((w.timer = .running → ∀ d ∈ delays, d ≤ manner.mostWhole) → waits delays) ∧
      (FailsNext s.transport m.toNat w → waits delays →
        read.1 = .error (.noReply s.gateway (.whole m)) ∧ read.2.sleeps = w.sleeps ++ delays.map .whole) ∧
      (∀ (k : ℕ) (d : Wire.Bytes), k < m → ArrivesAfter s.transport d k w → waits (delays.take k) →
        read.1 = (readReply d).map Answer.reply ∧
          read.2.sleeps = w.sleeps ++ (delays.take k).map .whole) ∧
      ∀ x, read.1 = .ok x → ∃ (k : ℕ) (d : Wire.Bytes), k < m ∧ ArrivesAfter s.transport d k w := by
  intro b delay
  have delay_eq (n : ℤ) : delay n = Schedule.wholeDelay start growth cap n := by
    have attempt : (max 0 n).toNat = n.toNat := by omega
    simp only [delay, attempt, Schedule.wholeDelay]
  refine ⟨fun n => ?_, fun n m h => ?_, fun manner s m w scheduled hm pos => ?_⟩
  · rw [delay_eq]
    exact Schedule.delay_ofWhole start growth cap n
  · rw [delay_eq, delay_eq]
    exact ⟨Schedule.wholeDelay_nonneg hs hg hc, Schedule.wholeDelay_mono hs hg h, Schedule.wholeDelay_le ..,
      Schedule.wholeDelay_eq_cap hs hg h⟩
  · intro delays read waits
    have delays_eq : delays = Schedule.wholeDelays start growth cap (m.toNat - 1) :=
      List.map_congr_left fun i _ => delay_eq i
    have count : ((m.toNat - 1 : ℕ) : ℤ) = m - 1 := by omega
    rw [delays_eq]
    refine ⟨⟨?_, Schedule.pairwise_wholeDelays hs hg _, fun d hd => Schedule.mem_wholeDelays hs hg hc hd, ?_⟩,
      fun most d hd => ?_, perform_read_of_fails manner scheduled hm pos, fun k d within arrives taken => ?_,
      fun x answered => ?_⟩
    · rw [Schedule.length_wholeDelays, count]
    · rw [← count]
      exact Schedule.sum_wholeDelays_le start growth cap _
    · obtain ⟨nonneg, -⟩ := Schedule.mem_wholeDelays hs hg hc hd
      exact Manner.wait_whole nonneg fun running => most running d hd
    · refine perform_read_of_arrival manner scheduled hm within arrives ?_
      rwa [Schedule.take_wholeDelays _ _ _ (by omega)] at taken
    · simp only [read, perform_read manner hm] at answered
      cases told : (Direct.readFrom manner s m.toNat 0 w).1 with
      | error e =>
        rw [told] at answered
        cases answered
      | ok r =>
        obtain ⟨k, within, d, arrives, -⟩ := arrival_of_readFrom told
        exact ⟨k, d, by omega, arrives⟩

/-- Tripling delays of at most twenty seconds, with five attempts: one read without a reply, and one to which the
public address comes at the third attempt. -/
theorem whole_delays_of_reads_tripling :
    let s : Session := ⟨.direct .absent, ⟨10, 0, 0, 1⟩, .whole 5, some (.ofWhole 1 3 20)⟩
    let told : Wire.Bytes := [0, 128, 0, 0, 0, 0, 0, 5, 1, 2, 3, 4]
    let w : World := { recvs := [.fails World.silence, .fails World.silence, .datagram told] }
    (0 : ℤ) ≤ 1 ∧ (1 : ℤ) ≤ 3 ∧ (0 : ℤ) ≤ 20 ∧ FailsNext s.transport 5 {} ∧ ArrivesAfter s.transport told 2 w ∧
      (Step.read.perform .async s {}).2.sleeps = [.whole 1, .whole 3, .whole 9, .whole 20] ∧
      (Step.read.perform .async s w).1 = .ok (.reply (.publicAddress 5 ⟨1, 2, 3, 4⟩)) ∧
      (Step.read.perform .async s w).2.sleeps = [.whole 1, .whole 3] := by
  intro s told w
  have fails : FailsNext s.transport 5 {} := (failsNext_direct_iff _ _ _).mpr fun _ _ => rfl
  have arrives : ArrivesAfter s.transport told 2 w := ⟨⟨_, rfl, rfl⟩, ⟨_, rfl, rfl⟩, rfl⟩
  have delays : (List.range 4).map (fun i : ℕ => min (1 * 3 ^ (max 0 (i : ℤ)).toNat) (20 : ℤ)) = [1, 3, 9, 20] := by
    decide
  obtain ⟨-, -, reads⟩ := whole_delays_of_reads (by norm_num : (0 : ℤ) ≤ 1) (by norm_num : (1 : ℤ) ≤ 3)
    (by norm_num : (0 : ℤ) ≤ 20)
  obtain ⟨-, -, unanswered, -, -⟩ := reads .async s 5 {} rfl rfl (by norm_num)
  obtain ⟨-, -, -, answered, -⟩ := reads .async s 5 w rfl rfl (by norm_num)
  obtain ⟨-, slept⟩ := unanswered fails fun _ _ => rfl
  obtain ⟨outcome, slept'⟩ := answered 2 told (by norm_num) arrives fun _ _ => rfl
  have four : (5 : ℤ).toNat - 1 = 4 := rfl
  have reply : readReply told = .ok (.publicAddress 5 ⟨1, 2, 3, 4⟩) := by
    simp only [told]
    rfl
  rw [four, delays] at slept slept'
  rw [reply, Except.map] at outcome
  exact ⟨by norm_num, by norm_num, by norm_num, fails, arrives, slept, outcome, slept'⟩

end Session

end PortMap
