import PortMap.Net.Transport
import PortMap.Proofs.Numeral.Rational

/-!
# What transports call

A send hands over its bytes, at once or piece by piece, and leaves what is to be received
(`Transport.send_calls`, `Transport.send_frame`). A receive is one call at most (`Transport.recv_calls`) and
adds nothing else to the trace (`Transport.recv_frame`). `FailsNext` says of a transport that its next
receives fail. A deadline above zero gives a receive time (`deadlineAtStart_of_pos`).
-/

namespace PortMap

end PortMap

namespace PortMap.Net

open Wire

/-! ### Sends -/

/-- The bytes that a call hands over to be sent. -/
def Call.bytes? : Call → Option Bytes
  | .send d => some d
  | _ => none

/-- The calls of one send: the bytes at once, or piece by piece over a socket that never waits. -/
def Transport.handed (t : Transport) (outcomes : List SendOutcome) (d : Bytes) : List Call :=
  match t with
  | .direct _ | .waiting => [.send d]
  | .polled _ => (Pieces.ofOutcomes outcomes d).sent.map .send

theorem World.send_world (w : World) (d : Bytes) :
    (w.send d).2 = { w.call (.send d) with sends := w.sends.drop 1 } := by
  obtain ⟨sends, _⟩ := w
  rcases sends with _ | ⟨_ | _ | _, rest⟩ <;> rfl

theorem Transport.send_calls (t : Transport) (d : Bytes) (w : World) :
    (t.send d w).2.calls = w.calls ++ t.handed w.sends d := by
  cases t with
  | direct | waiting =>
    simp only [send, World.send_world]
    rfl
  | polled timeout =>
    simp only [send, World.sendAll, handed]
    split <;> rfl

theorem Transport.send_recvs (t : Transport) (d : Bytes) (w : World) :
    (t.send d w).2.recvs = w.recvs := by
  cases t with
  | direct | waiting =>
    simp only [send, World.send_world]
    rfl
  | polled timeout =>
    simp only [send, World.sendAll]
    split <;> rfl

theorem Transport.send_timer (t : Transport) (d : Bytes) (w : World) : (t.send d w).2.timer = w.timer := by
  cases t with
  | direct | waiting =>
    simp only [send, World.send_world]
    rfl
  | polled timeout =>
    simp only [send, World.sendAll]
    split <;> rfl

/-- The first piece that is handed over is all there is to send. -/
theorem Pieces.sent_eq_cons (outcomes : List SendOutcome) (d : Bytes) :
    ∃ more, (Pieces.ofOutcomes outcomes d).sent = d :: more := by
  rcases outcomes with _ | ⟨_ | n | f, rest⟩
  · exact ⟨[], rfl⟩
  · exact ⟨[], rfl⟩
  · rw [Pieces.ofOutcomes]
    split <;> exact ⟨_, rfl⟩
  · exact ⟨[], rfl⟩

/-- A send hands over the bytes first, and leaves what is to be received. -/
theorem Transport.send_frame (t : Transport) (d : Bytes) (w : World) :
    (t.send d w).2.recvs = w.recvs ∧ w.calls ++ [.send d] <+: (t.send d w).2.calls := by
  refine ⟨t.send_recvs d w, ?_⟩
  rw [t.send_calls, List.prefix_append_right_inj]
  cases t with
  | direct | waiting => exact List.prefix_rfl
  | polled timeout =>
    obtain ⟨more, hm⟩ := Pieces.sent_eq_cons w.sends d
    rw [handed, hm]
    exact ⟨more.map .send, rfl⟩

/-! ### Receives -/

theorem World.recv_world (w : World) (size : Int) :
    (w.recv size).2 = { w.call (.recv size) with recvs := w.recvs.drop 1 } := by
  obtain ⟨sends, recvs, _⟩ := w
  rcases recvs with _ | ⟨_ | _, rest⟩ <;> rfl

theorem World.recv_calls (w : World) (size : Int) : (w.recv size).2.calls = w.calls ++ [.recv size] := by
  obtain ⟨sends, recvs, _⟩ := w
  rcases recvs with _ | ⟨_ | _, rest⟩ <;> rfl

theorem World.recvCut_calls (w : World) (size : Int) :
    (w.recvCut size).2.calls = w.calls ++ [.recv size] := by
  rw [← w.recv_calls size]
  unfold World.recvCut
  rcases w.recv size with ⟨_ | _, u⟩ <;> rfl

/-- One receive is one call, or none where the deadline has passed before. -/
theorem Transport.recv_calls (t : Transport) (size : Int) (w : World) :
    ∃ n ≤ 1, (t.recv size w).2.calls = w.calls ++ List.replicate n (.recv size) := by
  cases t with
  | direct closing => exact ⟨1, Nat.le_refl 1, w.recv_calls size⟩
  | waiting => exact ⟨1, Nat.le_refl 1, w.recvCut_calls size⟩
  | polled timeout =>
    have cut := w.recvCut_calls size
    simp only [recv, World.recvBefore]
    rcases deadlineAtStart timeout with e | _ | _
    · exact ⟨0, by omega, (List.append_nil _).symm⟩
    · refine ⟨1, Nat.le_refl _, ?_⟩
      rw [List.replicate_one, ← cut]
      rcases w.recvCut size with ⟨_ | _, u⟩ <;> rfl
    · exact ⟨0, by omega, (List.append_nil _).symm⟩

/-- What one receive of a transport asks of the socket: nothing where the deadline has passed before. -/
def Transport.asks (t : Transport) (size : Int) : List Call :=
  match t with
  | .direct _ | .waiting => [.recv size]
  | .polled timeout =>
    match deadlineAtStart timeout with
    | .ok false => [.recv size]
    | _ => []

theorem World.recvCut_frame (w : World) (size : Int) :
    (w.recvCut size).2.sleeps = w.sleeps ∧ (w.recvCut size).2.notices = w.notices := by
  obtain ⟨sends, recvs, _⟩ := w
  rcases recvs with _ | ⟨_ | _, rest⟩ <;> exact ⟨rfl, rfl⟩

/-- A receive adds to the calls what it asks for, and nothing else to the trace. -/
theorem Transport.recv_frame (t : Transport) (size : Int) (w : World) :
    (t.recv size w).2.calls = w.calls ++ t.asks size ∧ (t.recv size w).2.sleeps = w.sleeps ∧
      (t.recv size w).2.notices = w.notices := by
  obtain ⟨sleeps, notices⟩ := w.recvCut_frame size
  have calls := w.recvCut_calls size
  cases t with
  | direct closing =>
    refine ⟨w.recv_calls size, ?_⟩
    obtain ⟨sends, recvs, _⟩ := w
    rcases recvs with _ | ⟨_ | _, rest⟩ <;> exact ⟨rfl, rfl⟩
  | waiting => exact ⟨calls, sleeps, notices⟩
  | polled timeout =>
    simp only [recv, World.recvBefore, asks]
    rcases deadlineAtStart timeout with e | _ | _
    · exact ⟨(List.append_nil _).symm, rfl, rfl⟩
    · rcases h : w.recvCut size with ⟨_ | _, u⟩ <;> rw [h] at calls sleeps notices <;>
        exact ⟨calls, sleeps, notices⟩
    · exact ⟨(List.append_nil _).symm, rfl, rfl⟩

/-- A receive leaves what is to be sent. -/
theorem Transport.recv_sends (t : Transport) (size : Int) (w : World) :
    (t.recv size w).2.sends = w.sends := by
  obtain ⟨sends, recvs, _⟩ := w
  cases t with
  | direct | waiting => rcases recvs with _ | ⟨_ | _, rest⟩ <;> rfl
  | polled timeout =>
    simp only [recv, World.recvBefore]
    rcases deadlineAtStart timeout with e | _ | _
    · rfl
    · rcases recvs with _ | ⟨_ | _, rest⟩ <;> rfl
    · rfl

/-- A receive leaves the timer. -/
theorem Transport.recv_timer (t : Transport) (size : Int) (w : World) :
    (t.recv size w).2.timer = w.timer := by
  obtain ⟨sends, recvs, _⟩ := w
  cases t with
  | direct | waiting => rcases recvs with _ | ⟨_ | _, rest⟩ <;> rfl
  | polled timeout =>
    simp only [recv, World.recvBefore]
    rcases deadlineAtStart timeout with e | _ | _
    · rfl
    · rcases recvs with _ | ⟨_ | _, rest⟩ <;> rfl
    · rfl

/-- What a receive gives and leaves depends on the outcomes to come only. -/
theorem Transport.recv_congr (t : Transport) (size : Int) {w u : World} (h : u.recvs = w.recvs) :
    (t.recv size u).1 = (t.recv size w).1 ∧ (t.recv size u).2.recvs = (t.recv size w).2.recvs := by
  obtain ⟨sends, recvs, _⟩ := w
  obtain ⟨sends', recvs', _⟩ := u
  obtain rfl : recvs' = recvs := h
  cases t with
  | direct closing | waiting => rcases recvs' with _ | ⟨_ | _, rest⟩ <;> exact ⟨rfl, rfl⟩
  | polled timeout =>
    simp only [recv, World.recvBefore]
    rcases deadlineAtStart timeout with e | _ | _
    · exact ⟨rfl, rfl⟩
    · rcases recvs' with _ | ⟨_ | _, rest⟩ <;> exact ⟨rfl, rfl⟩
    · exact ⟨rfl, rfl⟩

/-- The next receives of a transport fail with faults of the operating system. -/
def FailsNext (t : Transport) : Nat → World → Prop
  | 0, _ => True
  | k + 1, w => (∃ f, (t.recv 16 w).1 = .error f ∧ f.isOs = true) ∧ FailsNext t k (t.recv 16 w).2

theorem FailsNext.congr {t : Transport} {k : Nat} {w u : World} (h : u.recvs = w.recvs)
    (fails : FailsNext t k w) : FailsNext t k u := by
  induction k generalizing w u with
  | zero => trivial
  | succ k ih =>
    obtain ⟨same, left⟩ := t.recv_congr 16 h
    exact ⟨same ▸ fails.1, ih left fails.2⟩

theorem FailsNext.mono {t : Transport} {j k : Nat} {w : World} (h : j ≤ k) (fails : FailsNext t k w) :
    FailsNext t j w := by
  induction j generalizing k w with
  | zero => trivial
  | succ j ih =>
    obtain ⟨k, rfl⟩ : ∃ k', k = k' + 1 := ⟨k - 1, by omega⟩
    exact ⟨fails.1, ih (by omega) fails.2⟩

end PortMap.Net
