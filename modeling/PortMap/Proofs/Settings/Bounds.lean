import Mathlib.Tactic.FinCases
import PortMap.Proofs.Ipv4.RoundTrip
import PortMap.Proofs.Numeral.Rounding
import PortMap.Proofs.Settings.Precedence

/-!
# The bounds of the settings

Numbers of every kind are checked against limits (`Settings.Limits`), the real ones by comparisons in which
a value that is not a number never takes part. `Limits.Admits` says what the limits are meant to say, of
rational numbers.

## What is proved

* `Limits.checkReal_eq_ok_iff`, `Limits.checkWhole_eq_ok_iff` — a check passes exactly the numbers within
  its limits, and **nothing that is not a finite number**.
* `readGateway_eq_ok_iff` — a gateway is taken from the dotted text of an address only.
* `Client.withinBounds_of_ofTable`, `withinBounds_of_ofSources` — settings of the client that are read from
  any table, or loaded from any file and environment, are within bounds (`Client.WithinBounds`).
* `Client.withinBounds_iff` — settings within bounds, and no others, are read back from their table.
-/

namespace PortMap.Settings

/-! ### Limits -/

namespace Limits

/-- A number is within limits. -/
def Admits (l : Limits) (q : ℚ) : Prop :=
  (if l.inclusive then (l.low : ℚ) ≤ q else (l.low : ℚ) < q) ∧ q ≤ l.high

/-- A number of the format is finite and within limits. -/
def AdmitsReal (l : Limits) (x : Binary64) : Prop := ∃ q, x.rational? = some q ∧ l.Admits q

variable {l : Limits}

/-- Limits that are numbers of the format pass the real numbers within them. -/
theorem checkReal_eq_ok_iff (hlow : l.low < 2 ^ 53) (hhigh : l.high < 2 ^ 53) {x y : Binary64} :
    l.checkReal x = .ok y ↔ y = x ∧ l.AdmitsReal x := by
  have low := Binary64.rational?_ofInt_natCast hlow
  have high := Binary64.rational?_ofInt_natCast hhigh
  have passes : l.checkReal x = .ok y ↔ y = x ∧ (x.lt (Binary64.ofInt l.low) = false ∧
      (l.inclusive = false → x.le (Binary64.ofInt l.low) = false)) ∧
        x.le (Binary64.ofInt l.high) = true := by
    unfold checkReal
    dsimp only
    split
    · rename_i refused
      refine iff_of_false nofun ?_
      rintro ⟨-, ⟨notBelow, strict⟩, -⟩
      rw [notBelow, Bool.false_or, Bool.and_eq_true, Bool.not_eq_true'] at refused
      rw [strict refused.1] at refused
      exact Bool.false_ne_true refused.2
    · rename_i taken
      rw [Bool.not_eq_true, Bool.or_eq_false_iff, Bool.and_eq_false_imp, Bool.not_eq_true'] at taken
      split
      · rename_i notAbove
        exact ⟨fun h => ⟨(Except.ok.inj h).symm, taken, notAbove⟩, fun h => h.1 ▸ rfl⟩
      · rename_i above
        exact iff_of_false nofun fun h => above h.2.2
  rw [passes]
  refine and_congr_right fun _ => ⟨?_, ?_⟩
  · rintro ⟨⟨notBelow, strict⟩, notAbove⟩
    obtain ⟨q, value, least, most⟩ := Binary64.exists_rational? low high notBelow notAbove
    refine ⟨q, value, ?_, most⟩
    split
    · exact least
    · rename_i exclusive
      have apart := strict (Bool.eq_false_of_not_eq_true exclusive)
      rwa [← not_le, ← Binary64.le_iff value low, Bool.not_eq_true]
  · rintro ⟨q, value, least, most⟩
    have notBelow : (l.low : ℚ) ≤ q := by
      split at least
      · exact least
      · exact least.le
    refine ⟨⟨?_, fun exclusive => ?_⟩, (Binary64.le_iff value high).mpr most⟩
    · rwa [← Bool.not_eq_true, Binary64.lt_iff value low, not_lt]
    · rw [exclusive, if_neg Bool.false_ne_true] at least
      rwa [← Bool.not_eq_true, Binary64.le_iff value low, not_le]

theorem checkWhole_eq_ok_iff {n k : Int} : l.checkWhole n = .ok k ↔ k = n ∧ l.Admits n := by
  have admits : l.Admits n ↔ (l.low ≤ n ∧ (l.inclusive = false → n ≠ l.low)) ∧ n ≤ l.high := by
    have lower : (l.low : ℚ) ≤ n ↔ (l.low : Int) ≤ n := by exact_mod_cast Iff.rfl
    have strictly : (l.low : ℚ) < n ↔ (l.low : Int) < n := by exact_mod_cast Iff.rfl
    have upper : (n : ℚ) ≤ l.high ↔ n ≤ (l.high : Int) := by exact_mod_cast Iff.rfl
    rw [Admits, lower, strictly, upper]
    cases l.inclusive
    · simp
      omega
    · simp
  rw [admits]
  unfold checkWhole
  split
  · rename_i refused
    refine iff_of_false nofun ?_
    rintro ⟨-, ⟨least, strict⟩, -⟩
    rcases refused with below | ⟨exclusive, equal⟩
    · omega
    · exact strict (by simpa using exclusive) equal
  · rename_i taken
    rw [not_or, not_lt] at taken
    split
    · rename_i notAbove
      refine ⟨fun h => ⟨(Except.ok.inj h).symm, ⟨taken.1, fun exclusive equal => ?_⟩, notAbove⟩,
        fun h => h.1 ▸ rfl⟩
      exact taken.2 ⟨by rw [exclusive]; rfl, equal⟩
    · rename_i above
      exact iff_of_false nofun fun h => above h.2.2

end Limits

/-! ### Values within limits -/

variable {l : Limits} {v : Value}

theorem readRealWithin_eq_ok_iff (hlow : l.low < 2 ^ 53) (hhigh : l.high < 2 ^ 53) {x : Binary64} :
    readRealWithin l v = .ok x ↔ readReal v = .ok x ∧ l.AdmitsReal x := by
  unfold readRealWithin
  cases readReal v with
  | error p => exact iff_of_false nofun fun h => nomatch h.1
  | ok y =>
    refine (Limits.checkReal_eq_ok_iff hlow hhigh).trans ?_
    rw [Except.ok.injEq, eq_comm]
    exact and_congr_right fun same => by rw [same]

theorem readWholeWithin_eq_ok_iff {n : Int} :
    readWholeWithin l v = .ok n ↔ readWhole v = .ok n ∧ l.Admits n := by
  unfold readWholeWithin
  cases readWhole v with
  | error p => exact iff_of_false nofun fun h => nomatch h.1
  | ok k =>
    refine Limits.checkWhole_eq_ok_iff.trans ?_
    rw [Except.ok.injEq, eq_comm]
    exact and_congr_right fun same => by rw [same]

/-- A number within the limits is read as it is. -/
theorem readRealWithin_real (hlow : l.low < 2 ^ 53) (hhigh : l.high < 2 ^ 53) {x : Binary64}
    (h : l.AdmitsReal x) : readRealWithin l (.real x) = .ok x :=
  (readRealWithin_eq_ok_iff hlow hhigh).mpr ⟨rfl, h⟩

theorem readWholeWithin_whole {n : Int} (h : l.Admits n) : readWholeWithin l (.whole n) = .ok n :=
  readWholeWithin_eq_ok_iff.mpr ⟨rfl, h⟩

/-- **A gateway is taken from the dotted text of an address only**; without a value there is none. -/
theorem readGateway_eq_ok_iff {g : Option Address} :
    readGateway v = .ok g ↔ v = (g.map fun a => Value.text a.text).getD .null := by
  unfold readGateway
  cases v with
  | text s =>
    have same (a : Address) : s.toList = a.chars ↔ s = a.text := by
      rw [Address.text, ← String.toList_inj, String.toList_ofList]
    cases g with
    | none => cases h : Address.read s.toList <;> simp [readText?, h]
    | some a =>
      have reads : Address.read s.toList = .ok a ↔ s = a.text := Address.readFrom_eq_ok_iff.trans (same a)
      cases h : Address.read s.toList with
      | error e => simpa [readText?, h] using reads
      | ok b => simpa [readText?, h] using reads
  | _ => cases g <;> simp [readText?]

/-! ### Settings within bounds -/

/-- The settings of the client are within bounds. -/
structure Client.WithinBounds (c : Client) : Prop where
  /-- The longest time of a receive is above zero, and at most a minute. -/
  timeout : ∃ q, c.timeout.rational? = some q ∧ 0 < q ∧ q ≤ 60
  /-- There is at least one attempt, and there are at most 64. -/
  maxAttempts : 1 ≤ c.maxAttempts ∧ c.maxAttempts ≤ 64
  /-- The first delay is at most a minute. -/
  retryBaseDelay : ∃ q, c.retryBaseDelay.rational? = some q ∧ 0 ≤ q ∧ q ≤ 60
  /-- The longest delay is at most an hour. -/
  retryMaxDelay : ∃ q, c.retryMaxDelay.rational? = some q ∧ 0 ≤ q ∧ q ≤ 3600
  /-- The lifetime has at most 32 bits. -/
  mappingLifetime : 0 ≤ c.mappingLifetime ∧ c.mappingLifetime ≤ 2 ^ 32 - 1
  /-- The text of the gateway, if there is one, is taken for this very address. -/
  gateway : ∀ a, c.gateway = some a → Address.ofValue (.text a.text) = .ok a

section Within

variable {t : Table} {c : Client}

theorem admitsReal_of_elim (hlow : l.low < 2 ^ 53) (hhigh : l.high < 2 ^ 53) {place : Option Value}
    {d x : Binary64} (standing : l.AdmitsReal d) (h : place.elim (.ok d) (readRealWithin l) = .ok x) :
    l.AdmitsReal x := by
  cases place with
  | none => exact Except.ok.inj h ▸ standing
  | some v => exact ((readRealWithin_eq_ok_iff hlow hhigh).mp h).2

theorem admits_of_elim {place : Option Value} {d n : Int} (standing : l.Admits d)
    (h : place.elim (.ok d) (readWholeWithin l) = .ok n) : l.Admits n := by
  cases place with
  | none => exact Except.ok.inj h ▸ standing
  | some v => exact (readWholeWithin_eq_ok_iff.mp h).2

/-- The bounds are the limits that are checked. -/
theorem Client.withinBounds_iff_admits :
    c.WithinBounds ↔ timeoutLimits.AdmitsReal c.timeout ∧ attemptLimits.Admits c.maxAttempts ∧
      baseDelayLimits.AdmitsReal c.retryBaseDelay ∧ maxDelayLimits.AdmitsReal c.retryMaxDelay ∧
        lifetimeLimits.Admits c.mappingLifetime := by
  have timeout : timeoutLimits.AdmitsReal c.timeout ↔
      ∃ q, c.timeout.rational? = some q ∧ 0 < q ∧ q ≤ 60 := by
    simp [Limits.AdmitsReal, Limits.Admits, timeoutLimits]
  have attempts : attemptLimits.Admits c.maxAttempts ↔ 1 ≤ c.maxAttempts ∧ c.maxAttempts ≤ 64 := by
    simp only [Limits.Admits, attemptLimits, if_true]
    exact_mod_cast Iff.rfl
  have baseDelay : baseDelayLimits.AdmitsReal c.retryBaseDelay ↔
      ∃ q, c.retryBaseDelay.rational? = some q ∧ 0 ≤ q ∧ q ≤ 60 := by
    simp [Limits.AdmitsReal, Limits.Admits, baseDelayLimits]
  have maxDelay : maxDelayLimits.AdmitsReal c.retryMaxDelay ↔
      ∃ q, c.retryMaxDelay.rational? = some q ∧ 0 ≤ q ∧ q ≤ 3600 := by
    simp [Limits.AdmitsReal, Limits.Admits, maxDelayLimits]
  have lifetime : lifetimeLimits.Admits c.mappingLifetime ↔
      0 ≤ c.mappingLifetime ∧ c.mappingLifetime ≤ 2 ^ 32 - 1 := by
    simp only [Limits.Admits, lifetimeLimits, if_true]
    exact_mod_cast Iff.rfl
  rw [timeout, attempts, baseDelay, maxDelay, lifetime]
  constructor
  · rintro ⟨ht, ha, hb, hm, hl, -⟩
    exact ⟨ht, ha, hb, hm, hl⟩
  · rintro ⟨ht, ha, hb, hm, hl⟩
    exact ⟨ht, ha, hb, hm, hl, fun a _ => Address.ofValue_text a⟩

theorem Client.withinBounds_default : ({} : Client).WithinBounds := by
  have quarter : Binary64.quarter.rational? = some (1 / 4) := by
    norm_num [Binary64.quarter, Binary64.rational?]
  have sixtyFour : Binary64.sixtyFour.rational? = some 64 := by
    norm_num [Binary64.sixtyFour, Binary64.rational?]
  exact ⟨⟨_, quarter, by norm_num⟩, by decide, ⟨_, quarter, by norm_num⟩, ⟨_, sixtyFour, by norm_num⟩,
    by decide, fun a none => absurd none (Option.some_ne_none a).symm⟩

/-- **What is read from a table is within bounds**, the defaults too. -/
theorem Client.withinBounds_of_ofTable (h : Client.ofTable t = .ok c) : c.WithinBounds := by
  have fields := Client.ofTable_eq_ok_iff.mp h
  obtain ⟨timeout, attempts, baseDelay, maxDelay, lifetime⟩ :=
    Client.withinBounds_iff_admits.mp Client.withinBounds_default
  refine Client.withinBounds_iff_admits.mpr ⟨?_, ?_, ?_, ?_, ?_⟩
  · exact admitsReal_of_elim (by decide) (by decide) timeout (fields .timeout (by decide))
  · exact admits_of_elim attempts (fields .maxAttempts (by decide))
  · exact admitsReal_of_elim (by decide) (by decide) baseDelay (fields .retryBaseDelay (by decide))
  · exact admitsReal_of_elim (by decide) (by decide) maxDelay (fields .retryMaxDelay (by decide))
  · exact admits_of_elim lifetime (fields .mappingLifetime (by decide))

/-- **Settings within bounds are read back** from the table that shows them, and no others are. -/
theorem Client.withinBounds_iff : c.WithinBounds ↔ Client.ofTable c.toTable = .ok c := by
  refine ⟨fun within => Client.ofTable_eq_ok_iff.mpr fun f hf => ?_, Client.withinBounds_of_ofTable⟩
  obtain ⟨timeout, attempts, baseDelay, maxDelay, lifetime⟩ := Client.withinBounds_iff_admits.mp within
  fin_cases hf
  · exact readGateway_eq_ok_iff.mpr rfl
  · exact readRealWithin_real (by decide) (by decide) timeout
  · exact readWholeWithin_whole attempts
  · rfl
  · exact readRealWithin_real (by decide) (by decide) baseDelay
  · exact readRealWithin_real (by decide) (by decide) maxDelay
  · exact readWholeWithin_whole lifetime

/-- The value for the gateway in a table, if there is one, is the text of the gateway that is read. -/
theorem Client.gateway_of_ofTable (h : Client.ofTable t = .ok c) {v : Value}
    (there : t.get? "gateway" = some v) :
    v = (c.gateway.map fun a => Value.text a.text).getD .null := by
  have field := Client.ofTable_eq_ok_iff.mp h .gateway (by decide)
  rw [Field.name, there] at field
  exact readGateway_eq_ok_iff.mp field

/-- What is loaded from any file and environment is within bounds. -/
theorem withinBounds_of_ofSources {file : Table} {e : Environment} {s : Settings}
    (h : ofSources file e = .ok s) : s.client.WithinBounds := by
  -- field by field, it is what a table of the contributions of the sources holds
  obtain ⟨-, fields⟩ := ofTable_eq_ok_iff.mp (ofSources_eq_ok_iff_ofTable.mp h)
  refine Client.withinBounds_of_ofTable (t := (Table.overlay file e.toTable).fields Section.client.name)
    (Client.ofTable_eq_ok_iff.mpr fun f hf => ?_)
  have field := fields f
  fin_cases hf <;> exact field

end Within

end PortMap.Settings
