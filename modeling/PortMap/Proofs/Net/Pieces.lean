import PortMap.Net.Transport

/-!
# Sending everything, piece by piece

A socket that never waits is offered what is left of a request, again and again, until all of it is written.
`accepted` is what its sends take of the pieces that they are offered. No byte is lost, and none is taken
twice: put together, what was taken is the request, or its beginning where a send has failed.
-/

namespace PortMap.Net

open Wire

/-- What a send with an outcome takes of the bytes that it is offered. -/
def SendOutcome.taken : SendOutcome → Bytes → Bytes
  | .full, d => d
  | .count n, d => d.take n.toNat
  | .fails _, _ => []

/-- What sends with these outcomes take of the pieces that they are offered; past the outcomes, everything. -/
def accepted : List SendOutcome → List Bytes → List Bytes
  | _, [] => []
  | [], pieces => pieces
  | o :: outcomes, d :: pieces => o.taken d :: accepted outcomes pieces

@[simp] theorem accepted_nil (outcomes : List SendOutcome) : accepted outcomes [] = [] := by
  cases outcomes <;> rfl

namespace Pieces

variable {outcomes : List SendOutcome} {d : Bytes} {f : Failure}

/-- What is left of the outcomes after a send are some of them. -/
theorem mem_of_left {o : SendOutcome} (h : o ∈ (ofOutcomes outcomes d).left) : o ∈ outcomes := by
  fun_induction ofOutcomes outcomes d with
  | case1 => exact h
  | case2 => exact List.mem_cons_of_mem _ h
  | case3 => exact List.mem_cons_of_mem _ h
  | case4 => exact List.mem_cons_of_mem _ h
  | case5 n rest d short more ih => exact List.mem_cons_of_mem _ (ih h)

/-- What stops a send is the failure of one of the sends that it has made. -/
theorem failure_eq_some_iff : (ofOutcomes outcomes d).failure = some f ↔
    .fails f ∈ outcomes.take (ofOutcomes outcomes d).sent.length := by
  fun_induction ofOutcomes outcomes d with
  | case1 => simp
  | case2 => simp
  | case3 => simp [eq_comm]
  | case4 => simp
  | case5 n rest d short more ih => simpa using ih

theorem mem_of_failure (h : (ofOutcomes outcomes d).failure = some f) : .fails f ∈ outcomes :=
  List.mem_of_mem_take (failure_eq_some_iff.mp h)

/-- What was taken, put together, is a beginning of the bytes. -/
theorem accepted_prefix (outcomes : List SendOutcome) (d : Bytes) :
    (accepted outcomes (ofOutcomes outcomes d).sent).flatten <+: d := by
  fun_induction ofOutcomes outcomes d with
  | case1 d => simp [accepted]
  | case2 rest d => simp [accepted, SendOutcome.taken]
  | case3 f rest d => simp [accepted, SendOutcome.taken]
  | case4 n rest d all => simpa [accepted, SendOutcome.taken] using List.take_prefix n.toNat d
  | case5 n rest d short more ih =>
    rw [accepted, List.flatten_cons, SendOutcome.taken]
    calc d.take n.toNat ++ _ <+: d.take n.toNat ++ d.drop n.toNat := List.prefix_append_right_inj _ |>.mpr ih
      _ = d := List.take_append_drop n.toNat d

/-- What was taken, put together, is all of the bytes where no send fails. -/
theorem flatten_accepted (h : (ofOutcomes outcomes d).failure = none) :
    (accepted outcomes (ofOutcomes outcomes d).sent).flatten = d := by
  fun_induction ofOutcomes outcomes d with
  | case1 d => simp [accepted]
  | case2 rest d => simp [accepted, SendOutcome.taken]
  | case3 f rest d => cases h
  | case4 n rest d all =>
    have whole : d.length ≤ n.toNat := by omega
    simp [accepted, SendOutcome.taken, List.take_of_length_le whole]
  | case5 n rest d short more ih =>
    rw [accepted, List.flatten_cons, SendOutcome.taken, ih h, List.take_append_drop]

end Pieces

/-- Over a socket that never waits all bytes are written, unless the send fails. -/
theorem Transport.send_polled (timeout : Value) (d : Bytes) (w : World) :
    ((Transport.polled timeout).send d w).1 =
      match (Pieces.ofOutcomes w.sends d).failure with
      | some f => .error f
      | none => .ok d.length := by
  simp only [send, World.sendAll]
  split <;> simp [*]

/-- A socket that never waits leaves the outcomes that its sends have not used, and notes its calls. -/
theorem Transport.send_polled_world (timeout : Value) (d : Bytes) (w : World) :
    ((Transport.polled timeout).send d w).2 =
      { w with
        sends := (Pieces.ofOutcomes w.sends d).left
        calls := w.calls ++ (Pieces.ofOutcomes w.sends d).sent.map .send } := by
  simp only [send, World.sendAll]
  split <;> rfl

end PortMap.Net
