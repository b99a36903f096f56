import PortMap.Session.Step

/-!
# Runs, one step after the other

A step of a run is performed by the session and in the world that the steps before it have left. Whatever
holds of a step in every session and world so holds of each record of a run: `getElem?_runSteps`.
-/

namespace PortMap.Session

open Net

/-- The session after steps. -/
def afterAll (s : Session) (steps : List Step) : Session := steps.foldl after s

/-- The world after steps. -/
def worldAfter (manner : Manner) (s : Session) : List Step → World → World
  | [], w => w
  | step :: rest, w => worldAfter manner (s.after step) rest (step.perform manner s w.untraced).2

/-- The record of a single step. -/
def record (manner : Manner) (s : Session) (w : World) (step : Step) : Record :=
  ⟨(step.perform manner s w.untraced).1, (step.perform manner s w.untraced).2⟩

/-- The record of a step of a run. -/
theorem getElem?_runSteps (manner : Manner) (s : Session) (steps : List Step) (w : World) (i : Nat) :
    (runSteps manner s steps w)[i]? = steps[i]?.map
      (record manner (s.afterAll (steps.take i)) (worldAfter manner s (steps.take i) w)) := by
  induction steps generalizing s w i with
  | nil => rfl
  | cons step rest ih =>
    cases i with
    | zero => rfl
    | succ i => exact ih (s.after step) (step.perform manner s w.untraced).2 i

end PortMap.Session
