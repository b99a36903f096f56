import Mathlib.Data.List.Forall2
import PortMap.Proofs.Session.Shape

/-!
# Worlds that a session cannot tell apart

A relation between worlds is respected over a transport if each single act has the same outcome in two worlds
that it relates, and leaves two such worlds (`Respected`). Every exchange of a session is put together of these
acts, so it has the same outcome in both as well: each step (`step_blind`), and each step of a run
(`runSteps_blind`).
-/

namespace PortMap.Session

open Wire Net

variable {W : World → World → Prop}

/-- The single acts over a transport have the same outcome in worlds that are related, and leave such
worlds. -/
structure Respected (W : World → World → Prop) (t : Transport) : Prop where
  /-- Sends. -/
  send : ∀ (d : Bytes) ⦃u v : World⦄, W u v →
    (t.send d u).1 = (t.send d v).1 ∧ W (t.send d u).2 (t.send d v).2
  /-- Receives. -/
  recv : ∀ ⦃u v : World⦄, W u v →
    (t.recv areaSize u).1 = (t.recv areaSize v).1 ∧ W (t.recv areaSize u).2 (t.recv areaSize v).2
  /-- Sleeps, by the same timer. -/
  sleep : ∀ (d : Value) ⦃u v : World⦄, W u v → u.timer = v.timer ∧ W (u.asked d) (v.asked d)
  /-- Notices. -/
  note : ∀ (n : Log.Notice) ⦃u v : World⦄, W u v → W (u.note n) (v.note n)
  /-- Closing. -/
  close : ∀ ⦃u v : World⦄, W u v → W (u.call .close) (v.call .close)

/-- An exchange has the same outcome in worlds that are related, and leaves such worlds. -/
abbrev Blind {α : Type} (W : World → World → Prop) (x : Exchange α) : Prop := Exchange.Matches W Eq x x

variable {manner : Manner} {s : Session} (h : Respected W s.transport)

include h

theorem Respected.note_blind (n : Log.Notice) : Blind W (Exchange.note n) :=
  Exchange.Matches.act fun _ _ related => ⟨rfl, h.note n related⟩

theorem write_blind (request : Bytes) : Blind W (Direct.write s request) :=
  (Exchange.Matches.act (h.send request)).bind_eq fun _ =>
    (Exchange.Matches.settle _).bind_eq fun _ => h.note_blind _

theorem pause_blind (attempt : Nat) : Blind W (Direct.pause manner s attempt) := by
  unfold Direct.pause
  cases s.backoff with
  | none => exact .pure ()
  | some schedule =>
    exact (Exchange.Matches.settle _).bind_eq fun d => .sleep manner d (h.sleep d)

theorem readFrom_blind (left attempt : Nat) : Blind W (Direct.readFrom manner s left attempt) := by
  induction left generalizing attempt with
  | zero => exact .throw _
  | succ left ih =>
    unfold Direct.readFrom
    refine (Exchange.Matches.act h.recv).bind_eq fun received => ?_
    cases received with
    | ok d => exact .settle _
    | error f =>
      simp only
      split
      · refine (h.note_blind _).bind_eq fun _ => ?_
        split
        · exact (pause_blind h attempt).bind_eq fun _ => ih (attempt + 1)
        · exact ih (attempt + 1)
      · exact .throw _

theorem read_blind : Blind W (Direct.read manner s) :=
  (Exchange.Matches.settle _).bind_eq fun n => readFrom_blind h n 0

theorem close_blind : Blind W (Direct.close s) := by
  unfold Direct.close
  cases s.transport.closing with
  | absent => exact .pure ()
  | immediate | awaited => exact Exchange.Matches.act fun _ _ related => ⟨rfl, h.close related⟩

theorem conclude_blind (step : Step) (reply : Reply) : Blind W (step.conclude reply) := by
  have granted : Blind W (granting reply) :=
    (Exchange.Matches.settle _).bind_eq fun _ => (h.note_blind _).bind_eq fun _ => .pure _
  cases step with
  | publicAddress => exact (Exchange.Matches.settle _).map _
  | mapPort => exact granted.map _
  | unmapPort =>
    exact granted.bind_eq fun _ => (Exchange.Matches.settle _).bind_eq fun _ =>
      (h.note_blind _).bind_eq fun _ => .pure _
  | _ => exact .pure _

theorem following_blind (step : Step) : Blind W (step.following manner s) := by
  cases step with
  | publicAddress | mapPort | unmapPort => exact (read_blind h).bind_eq (conclude_blind h _)
  | _ => exact .pure _

/-- **Each step has the same outcome in worlds that are related**, and leaves such worlds. -/
theorem step_blind (step : Step) : Blind W (Direct.step manner s step) := by
  cases asked : step.request? with
  | some request =>
    rw [step_eq_asking s asked]
    exact (Exchange.Matches.settle request).bind_eq fun d => (write_blind h d).bind_eq fun _ =>
      following_blind h step
  | none =>
    cases step with
    | read => exact (read_blind h).map _
    | gateway | setAttempts | setBackoff => exact .pure _
    | close | context => exact (close_blind h).map _
    | _ => cases asked

theorem Respected.after (step : Step) : Respected W (s.after step).transport := by
  cases step <;> exact h

/-! ### Runs -/

variable (untraced : ∀ ⦃u v : World⦄, W u v → W u.untraced v.untraced) (manner : Manner) (steps : List Step)
  {u v : World}

include untraced

/-- **So does each step of a run**, if related worlds are related with empty traces too. -/
theorem runSteps_blind (related : W u.untraced v.untraced) :
    List.Forall₂ (fun r r' : Record => r.outcome = r'.outcome ∧ W r.world r'.world)
      (runSteps manner s steps u) (runSteps manner s steps v) := by
  induction steps generalizing s u v with
  | nil => exact .nil
  | cons step rest ih =>
    obtain ⟨outcome, left⟩ := step_blind h step related
    simp only [runSteps, perform_eq]
    exact .cons ⟨outcome.eq, left⟩ (ih (h.after step) (untraced left))

theorem worldAfter_blind (related : W u.untraced v.untraced) :
    W (worldAfter manner s steps u).untraced (worldAfter manner s steps v).untraced := by
  induction steps generalizing s u v with
  | nil => exact related
  | cons step rest ih =>
    simp only [worldAfter, perform_eq]
    exact ih (h.after step) (untraced (step_blind h step related).2)

end PortMap.Session
