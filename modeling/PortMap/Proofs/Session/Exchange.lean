import PortMap.Session.Direct

/-!
# Exchanges, one act after the other

How an `Exchange` that is put together of others runs: the second part starts in the world that the
first one leaves, and does not start at all where the first one faults. `Exchange.bind_eq_ok` takes a
run that has an answer apart again.

What holds of each single act so passes through sequencing: that nothing but certain faults comes of it, and
that an invariant is kept (`Exchange.Keeps`), and that two runs from worlds in a relation match
(`Exchange.Matches`).
-/

namespace PortMap.Session

open Net

variable {α β : Type}

/-! ### Outcomes -/

/-- Two outcomes are answers in a relation, or the same fault. -/
inductive SameOutcome (R : α → β → Prop) : Except Fault α → Except Fault β → Prop
  /-- Answers in the relation. -/
  | ok {a : α} {b : β} : R a b → SameOutcome R (.ok a) (.ok b)
  /-- The same fault. -/
  | error (e : Fault) : SameOutcome R (.error e) (.error e)

theorem sameOutcome_refl (r : Except Fault α) : SameOutcome Eq r r := by
  cases r with
  | ok a => exact .ok rfl
  | error e => exact .error e

theorem SameOutcome.eq {r r' : Except Fault α} (h : SameOutcome Eq r r') : r = r' := by
  cases h with
  | ok same => exact congrArg _ same
  | error e => rfl

/-- Whether a time can be slept for, by a timer. -/
def Manner.wait (manner : Manner) (timer : Timer) (d : Value) : Except Timer.Fault Unit :=
  match manner with
  | .blocking => timer.sleep d
  | .async => timer.sleepAside d

theorem Manner.wait_rehearsal (manner : Manner) (d : Value) : manner.wait .rehearsal d = .ok () := by
  cases manner <;> rfl

namespace Exchange

/-! ### Sequencing -/

/-- What one exchange after the other does. -/
theorem bind_apply (x : Exchange α) (f : α → Exchange β) (w : World) :
    (x >>= f) w = match x w with
      | (.ok a, u) => f a u
      | (.error e, u) => (.error e, u) := by
  rcases h : x w with ⟨_ | _, u⟩ <;>
    simp only [bind, ExceptT.bind, ExceptT.mk, StateT.bind, h] <;> rfl

theorem bind_ok {x : Exchange α} {a : α} {w u : World} (h : x w = (.ok a, u))
    (f : α → Exchange β) : (x >>= f) w = f a u := by
  rw [bind_apply, h]

theorem bind_error {x : Exchange α} {e : Fault} {w u : World} (h : x w = (.error e, u))
    (f : α → Exchange β) : (x >>= f) w = (.error e, u) := by
  rw [bind_apply, h]

/-- Two exchanges one after the other have an answer if both have one. -/
theorem bind_eq_ok {x : Exchange α} {f : α → Exchange β} {b : β} {w v : World} :
    (x >>= f) w = (.ok b, v) ↔ ∃ a u, x w = (.ok a, u) ∧ f a u = (.ok b, v) := by
  constructor
  · intro h
    rcases hx : x w with ⟨e | a, u⟩
    · rw [bind_error hx] at h
      cases h
    · exact ⟨a, u, rfl, by rwa [bind_ok hx] at h⟩
  · rintro ⟨a, u, hx, hf⟩
    rw [bind_ok hx, hf]

theorem map_apply (g : α → β) (x : Exchange α) (w : World) :
    (g <$> x) w = ((x w).1.map g, (x w).2) := by
  rw [map_eq_pure_bind, bind_apply]
  rcases x w with ⟨_ | a, u⟩ <;> rfl

theorem map_eq_ok {g : α → β} {x : Exchange α} {b : β} {w u : World} :
    (g <$> x) w = (.ok b, u) ↔ ∃ a, x w = (.ok a, u) ∧ g a = b := by
  rw [map_eq_pure_bind, bind_eq_ok]
  refine exists_congr fun a => ⟨?_, ?_⟩
  · rintro ⟨v, hx, h⟩
    cases h
    exact ⟨hx, rfl⟩
  · rintro ⟨hx, rfl⟩
    exact ⟨u, hx, rfl⟩

/-! ### Single acts -/

theorem act_apply (f : World → α × World) (w : World) : act f w = (.ok (f w).1, (f w).2) := rfl

theorem note_apply (n : Log.Notice) (w : World) : note n w = (.ok (), w.note n) := rfl

theorem settle_apply (r : Except Fault α) (w : World) : settle r w = (r, w) := rfl

theorem sleep_apply (manner : Manner) (d : Value) (w : World) :
    sleep manner d w = ((manner.wait w.timer d).mapError .wait, w.asked d) := by
  cases manner <;> rfl

theorem pure_apply (a : α) (w : World) : (pure a : Exchange α) w = (.ok a, w) := rfl

theorem act_eq_ok {f : World → α × World} {a : α} {w u : World} :
    act f w = (.ok a, u) ↔ f w = (a, u) := by
  rw [act_apply, Prod.mk.injEq, Except.ok.injEq, Prod.ext_iff]

theorem settle_eq_ok {r : Except Fault α} {a : α} {w u : World} :
    settle r w = (.ok a, u) ↔ r = .ok a ∧ w = u := by
  rw [settle_apply, Prod.mk.injEq]

theorem sleep_eq_ok {manner : Manner} {d : Value} {w u : World} :
    sleep manner d w = (.ok (), u) ↔ manner.wait w.timer d = .ok () ∧ w.asked d = u := by
  rw [sleep_apply, Prod.mk.injEq]
  refine and_congr_left fun _ => ?_
  cases manner.wait w.timer d with
  | ok _ => exact ⟨fun _ => rfl, fun _ => rfl⟩
  | error e => exact ⟨nofun, nofun⟩

/-! ### Invariants -/

/-- From the worlds of an invariant, an exchange fails with nothing but faults of a kind, and ends in such a
world. -/
def Keeps (I : World → Prop) (P : Fault → Prop) (x : Exchange α) : Prop :=
  ∀ w, I w → (∀ e, (x w).1 = .error e → P e) ∧ I (x w).2

namespace Keeps

variable {I : World → Prop} {P : Fault → Prop} {x : Exchange α}

theorem bind {f : α → Exchange β} (hx : Keeps I P x) (hf : ∀ a, Keeps I P (f a)) :
    Keeps I P (x >>= f) := by
  intro w hw
  obtain ⟨faults, kept⟩ := hx w hw
  rw [bind_apply]
  rcases h : x w with ⟨e | a, u⟩ <;> rw [h] at faults kept
  · refine ⟨fun e' he => ?_, kept⟩
    cases he
    exact faults e rfl
  · exact hf a u kept

theorem settle {r : Except Fault α} (h : ∀ e, r = .error e → P e) : Keeps I P (Exchange.settle r) :=
  fun _ hw => ⟨h, hw⟩

theorem throw {e : Fault} (h : P e) : Keeps I P (MonadExcept.throw e : Exchange α) :=
  settle fun _ he => Except.error.inj he ▸ h

theorem pure (a : α) : Keeps I P (Pure.pure a : Exchange α) := settle nofun

theorem map (g : α → β) (hx : Keeps I P x) : Keeps I P (g <$> x) := by
  rw [map_eq_pure_bind]
  exact hx.bind fun a => .pure (g a)

/-- An act has no faults. -/
theorem act {f : World → α × World} (h : ∀ w, I w → I (f w).2) : Keeps I P (Exchange.act f) :=
  fun w hw => ⟨nofun, h w hw⟩

/-- A sleep has no fault but that it is refused. -/
theorem sleep (manner : Manner) (d : Value) (refused : ∀ e, P (.wait e)) (asked : ∀ w, I w → I (w.asked d)) :
    Keeps I P (Exchange.sleep manner d) := by
  intro w hw
  rw [sleep_apply]
  refine ⟨fun e he => ?_, asked w hw⟩
  cases h : manner.wait w.timer d with
  | ok _ =>
    rw [h] at he
    cases he
  | error cause =>
    rw [h] at he
    cases he
    exact refused cause

end Keeps

/-! ### Two runs -/

/-- From worlds in a relation, two exchanges have outcomes that match, and leave such worlds. -/
def Matches (W : World → World → Prop) (R : α → β → Prop) (x : Exchange α) (y : Exchange β) : Prop :=
  ∀ ⦃u v : World⦄, W u v → SameOutcome R (x u).1 (y v).1 ∧ W (x u).2 (y v).2

namespace Matches

variable {γ δ : Type} {W : World → World → Prop} {R : α → β → Prop} {x : Exchange α} {y : Exchange β}

theorem bind {T : γ → δ → Prop} {f : α → Exchange γ} {g : β → Exchange δ} (h : Matches W R x y)
    (hf : ∀ a b, R a b → Matches W T (f a) (g b)) : Matches W T (x >>= f) (y >>= g) := by
  intro u v related
  obtain ⟨outcome, left⟩ := h related
  rw [bind_apply, bind_apply]
  generalize x u = r at outcome left
  generalize y v = r' at outcome left
  obtain ⟨r, u'⟩ := r
  obtain ⟨r', v'⟩ := r'
  cases outcome with
  | ok answers => exact hf _ _ answers left
  | error e => exact ⟨.error e, left⟩

/-- Where the answers are equal, both go on with the same one. -/
theorem bind_eq {T : γ → δ → Prop} {x y : Exchange α} {f : α → Exchange γ} {g : α → Exchange δ}
    (h : Matches W Eq x y) (hf : ∀ a, Matches W T (f a) (g a)) : Matches W T (x >>= f) (y >>= g) :=
  h.bind fun a _ same => same ▸ hf a

theorem settle (r : Except Fault α) : Matches W Eq (Exchange.settle r) (Exchange.settle r) :=
  fun _ _ related => ⟨sameOutcome_refl r, related⟩

theorem pure (a : α) : Matches W Eq (Pure.pure a : Exchange α) (Pure.pure a) := settle (.ok a)

theorem throw (e : Fault) :
    Matches W Eq (MonadExcept.throw e : Exchange α) (MonadExcept.throw e) := settle (.error e)

theorem map {x y : Exchange α} (g : α → β) (h : Matches W Eq x y) : Matches W Eq (g <$> x) (g <$> y) := by
  rw [map_eq_pure_bind g x, map_eq_pure_bind g y]
  exact h.bind_eq fun a => .pure (g a)

/-- An act matches itself where it has the same outcome in both worlds, and keeps the relation. -/
theorem act {f : World → α × World}
    (h : ∀ ⦃u v : World⦄, W u v → (f u).1 = (f v).1 ∧ W (f u).2 (f v).2) :
    Matches W Eq (Exchange.act f) (Exchange.act f) := fun _ _ related =>
  ⟨.ok (h related).1, (h related).2⟩

/-- A sleep matches itself where both worlds have the same timer. -/
theorem sleep (manner : Manner) (d : Value)
    (h : ∀ ⦃u v : World⦄, W u v → u.timer = v.timer ∧ W (u.asked d) (v.asked d)) :
    Matches W Eq (Exchange.sleep manner d) (Exchange.sleep manner d) := by
  intro u v related
  rw [sleep_apply, sleep_apply, (h related).1]
  exact ⟨sameOutcome_refl _, (h related).2⟩

end Matches

end Exchange

end PortMap.Session
