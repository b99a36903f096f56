import Mathlib.Tactic.FinCases
import PortMap.Proofs.Settings.Bounds

/-!
# Settings that were read

Settings that some table is read as (`Settings.Valid`) are within bounds, and what such a setting shows is read as
what it holds (`read_value`).

Values for some of the settings, under the names of these, are a table (`Field.tableOf`). What stands in it at the
name of a setting is the value for that setting (`Field.get?_tableOf`).
-/

namespace PortMap

/-- The value, if it is one. -/
def Value.present? : Value → Option Value
  | .null => none
  | v => some v

namespace Settings

/-! ### What settings show -/

/-- Settings that some table is read as. -/
def Valid (s : Settings) : Prop := ∃ t, ofTable t = .ok s

variable {s : Settings}

theorem Valid.withinBounds (h : s.Valid) : s.client.WithinBounds := by
  obtain ⟨t, reads⟩ := h
  obtain ⟨-, fields⟩ := ofTable_eq_ok_iff.mp reads
  refine Client.withinBounds_of_ofTable (t := t.fields Section.client.name)
    (Client.ofTable_eq_ok_iff.mpr fun f hf => ?_)
  have field := fields f
  fin_cases hf <;> exact field

theorem valid_default : Valid {} := ⟨[], rfl⟩

/-- No setting shows a table. -/
theorem table?_value (s : Settings) (f : Field) : (s.value f).table? = none := by
  cases f with
  | gateway => cases h : s.client.gateway <;> simp [value, h, Value.table?]
  | logFile => cases h : s.observability.logFile <;> simp [value, h, Value.table?]
  | _ => rfl

theorem get?_toTable (s : Settings) {f : Field} (hf : f ∈ Section.client.fields) :
    s.client.toTable.get? f.name = some (s.value f) := by
  fin_cases hf <;> rfl

theorem content_client (s : Settings) {f : Field} (hf : f ∈ Section.client.fields) :
    content ⟨s.client, {}⟩ f = s.content f := by
  fin_cases hf <;> rfl

/-- **What a setting shows is read as what it holds.** -/
theorem read_value (within : s.client.WithinBounds) (f : Field) : f.read (s.value f) = .ok (s.content f) := by
  by_cases hf : f ∈ Section.client.fields
  · have back := Client.ofTable_eq_ok_iff.mp (Client.withinBounds_iff.mp within) f hf
    rwa [get?_toTable s hf, content_client s hf] at back
  · cases f with
    | logLevel =>
      have named (l : Log.Level) : readLevel (.text l.name) = .ok l := by cases l <;> rfl
      exact named s.observability.logLevel
    | logFile =>
      have kept (file : Option String) : readText? ((file.map Value.text).getD .null) = .ok file := by
        cases file <;> rfl
      exact kept s.observability.logFile
    | structuredLogging | logCorrelationId => rfl
    | _ => exact absurd (by decide) hf

/-- Exactly the settings within bounds are read from a table, be it their own. -/
theorem valid_iff : s.Valid ↔ s.client.WithinBounds := by
  refine ⟨Valid.withinBounds, fun within => ⟨s.toTable, ofTable_eq_ok_iff.mpr ⟨?_, fun f => ?_⟩⟩⟩
  · rintro (_ | _) v found <;> cases found <;> rfl
  · have shown : f.valueIn s.toTable = some (s.value f) := by cases f <;> rfl
    rw [shown]
    exact read_value within f

/-! ### Tables of values for settings -/

namespace Field

variable {g : Field → Option Value} {fs : List Field}

/-- The values that there are for some settings, by the names of these. -/
def tableOf (g : Field → Option Value) (fs : List Field) : Table :=
  fs.filterMap fun f => (g f).map fun v => (f.name, v)

theorem tableOf_cons_none {k : Field} (h : g k = none) : tableOf g (k :: fs) = tableOf g fs :=
  List.filterMap_cons_none (by rw [h]; rfl)

theorem tableOf_cons_some {k : Field} {v : Value} (h : g k = some v) :
    tableOf g (k :: fs) = (k.name, v) :: tableOf g fs :=
  List.filterMap_cons_some (by rw [h]; rfl)

/-- At the name of a setting stands the value for it. -/
theorem get?_tableOf (g : Field → Option Value) (fs : List Field) (f : Field) :
    (tableOf g fs).get? f.name = if f ∈ fs then g f else none := by
  induction fs with
  | nil => rfl
  | cons k fs ih =>
    have same : f.name = k.name ↔ f = k := ⟨name_injective, congrArg _⟩
    cases h : g k with
    | none =>
      rw [tableOf_cons_none h, ih]
      by_cases e : f = k
      · subst e
        simp [h]
      · simp [e]
    | some v =>
      rw [tableOf_cons_some h, Table.get?_cons, ih]
      by_cases e : f = k
      · subst e
        simp [h]
      · simp [e, same]

theorem mem_tableOf {x : String × Value} :
    x ∈ tableOf g fs ↔ ∃ f ∈ fs, ∃ v, g f = some v ∧ x = (f.name, v) := by
  simp [tableOf, List.mem_filterMap, eq_comm]

theorem nodup_names_tableOf (distinct : (fs.map name).Nodup) : (tableOf g fs).names.Nodup := by
  have sub (fs : List Field) : (tableOf g fs).names.Sublist (fs.map name) := by
    induction fs with
    | nil => exact List.Sublist.slnil
    | cons k fs ih =>
      cases h : g k with
      | none =>
        rw [tableOf_cons_none h]
        exact ih.cons _
      | some v =>
        rw [tableOf_cons_some h]
        exact ih.cons_cons _
  exact (sub fs).nodup distinct

end Field

end Settings

end PortMap
