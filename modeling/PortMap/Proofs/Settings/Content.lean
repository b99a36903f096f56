import Mathlib.Data.List.Nodup
import Mathlib.Tactic.Choose
import Mathlib.Tactic.FinCases
import PortMap.Proofs.Settings.Overlay
import PortMap.Settings.Field

/-!
# Settings, one field at a time

What a setting holds (`Settings.content`) is of a type that depends on the field (`Field.Content`), and each
field has a reader of its own (`Field.read`). `Field.validate` is what becomes of a setting: the default
where there is no value for it, else what its reader makes of the value.

## What is proved

* `ofTable_eq_ok_iff` — a table is read as settings exactly if its sections are tables and each setting of
  its own value is valid; **the settings are then those contents, field by field**.
* `exists_ofTable_eq_ok_iff` — when a table is read at all.
-/

namespace PortMap.Settings

/-! ### Contents -/

namespace Field

/-- The section of a setting. -/
def section_ : Field → Section
  | .gateway | .timeout | .maxAttempts | .retryBackoff | .retryBaseDelay | .retryMaxDelay
  | .mappingLifetime => .client
  | .logLevel | .logFile | .structuredLogging | .logCorrelationId => .observability

/-- All settings, section by section. -/
def all : List Field := Section.all.flatMap Section.fields

theorem mem_all (f : Field) : f ∈ all := by
  cases f <;> decide

/-- A setting is known by its name. -/
theorem name_injective {f g : Field} (h : f.name = g.name) : f = g := by
  have distinct : (all.map name).Nodup := by decide
  exact List.inj_on_of_nodup_map distinct (mem_all f) (mem_all g) h

/-- What a setting holds. -/
def Content : Field → Type
  | .gateway => Option Address
  | .timeout | .retryBaseDelay | .retryMaxDelay => Binary64
  | .maxAttempts | .mappingLifetime => Int
  | .retryBackoff | .structuredLogging | .logCorrelationId => Bool
  | .logLevel => Log.Level
  | .logFile => Option String

/-- Reads the value of a setting. -/
def read : (f : Field) → Value → Except Problem f.Content
  | .gateway => readGateway
  | .timeout => readRealWithin timeoutLimits
  | .maxAttempts => readWholeWithin attemptLimits
  | .retryBackoff | .structuredLogging | .logCorrelationId => readFlag
  | .retryBaseDelay => readRealWithin baseDelayLimits
  | .retryMaxDelay => readRealWithin maxDelayLimits
  | .mappingLifetime => readWholeWithin lifetimeLimits
  | .logLevel => readLevel
  | .logFile => readText?

end Field

/-- What a setting holds among the settings given. -/
def content (s : Settings) : (f : Field) → f.Content
  | .gateway => s.client.gateway
  | .timeout => s.client.timeout
  | .maxAttempts => s.client.maxAttempts
  | .retryBackoff => s.client.retryBackoff
  | .retryBaseDelay => s.client.retryBaseDelay
  | .retryMaxDelay => s.client.retryMaxDelay
  | .mappingLifetime => s.client.mappingLifetime
  | .logLevel => s.observability.logLevel
  | .logFile => s.observability.logFile
  | .structuredLogging => s.observability.structuredLogging
  | .logCorrelationId => s.observability.logCorrelationId

/-- The settings with the contents given. -/
def ofContents (x : (f : Field) → f.Content) : Settings where
  client :=
    { gateway := x .gateway
      timeout := x .timeout
      maxAttempts := x .maxAttempts
      retryBackoff := x .retryBackoff
      retryBaseDelay := x .retryBaseDelay
      retryMaxDelay := x .retryMaxDelay
      mappingLifetime := x .mappingLifetime }
  observability :=
    { logLevel := x .logLevel
      logFile := x .logFile
      structuredLogging := x .structuredLogging
      logCorrelationId := x .logCorrelationId }

theorem content_ofContents (x : (f : Field) → f.Content) (f : Field) : (ofContents x).content f = x f := by
  cases f <;> rfl

/-- What becomes of a setting with a value of its own, or without one. -/
def Field.validate (f : Field) (v : Option Value) : Except Problem f.Content :=
  v.elim (.ok (content {} f)) f.read

/-- The value of a setting in a table of sections. -/
def Field.valueIn (f : Field) (t : Table) : Option Value := (t.fields f.section_.name).get? f.name

/-! ### Reading a table -/

theorem Checked.apply_eq_ok_iff {α β : Type} {f : Checked (α → β)} {a : Checked α} {b : β} :
    f.apply a = .ok b ↔ ∃ g x, f = .ok g ∧ a = .ok x ∧ g x = b := by
  cases f <;> cases a <;> simp [Checked.apply]

variable {t : Table} {s : Settings}

theorem field_eq_ok_iff {α : Type} {name : String} {default x : α} {read : Value → Except Problem α} :
    field t name default read = .ok x ↔ (t.get? name).elim (.ok default) read = .ok x := by
  unfold field
  cases t.get? name with
  | none => simp only [Option.elim_none, Except.ok.injEq]
  | some v => cases h : read v <;> simp [h, Except.mapError]

/-- The settings of the client are read from a table field by field. -/
theorem Client.ofTable_eq_ok_iff {c : Client} :
    Client.ofTable t = .ok c ↔
      ∀ f ∈ Section.client.fields, f.validate (t.get? f.name) = .ok (content ⟨c, {}⟩ f) := by
  simp only [Client.ofTable, Checked.apply_eq_ok_iff, field_eq_ok_iff, Section.fields,
    List.forall_mem_cons]
  constructor
  · rintro ⟨_, lifetime, ⟨_, maxDelay, ⟨_, baseDelay, ⟨_, backoff, ⟨_, attempts, ⟨_, timeout,
      ⟨_, gateway, made, hg, rfl⟩, ht, rfl⟩, ha, rfl⟩, hb, rfl⟩, hd, rfl⟩, hm, rfl⟩, hl, rfl⟩
    cases made
    exact ⟨hg, ht, ha, hb, hd, hm, hl, nofun⟩
  · rintro ⟨hg, ht, ha, hb, hd, hm, hl, -⟩
    exact ⟨_, _, ⟨_, _, ⟨_, _, ⟨_, _, ⟨_, _, ⟨_, _, ⟨_, _, rfl, hg, rfl⟩, ht, rfl⟩, ha, rfl⟩, hb, rfl⟩,
      hd, rfl⟩, hm, rfl⟩, hl, rfl⟩

/-- The settings of the log are read from a table field by field. -/
theorem Observability.ofTable_eq_ok_iff {o : Observability} :
    Observability.ofTable t = .ok o ↔
      ∀ f ∈ Section.observability.fields, f.validate (t.get? f.name) = .ok (content ⟨{}, o⟩ f) := by
  simp only [Observability.ofTable, Checked.apply_eq_ok_iff, field_eq_ok_iff, Section.fields,
    List.forall_mem_cons]
  constructor
  · rintro ⟨_, correlation, ⟨_, structured, ⟨_, file, ⟨_, level, made, hl, rfl⟩, hf, rfl⟩, hs, rfl⟩,
      hc, rfl⟩
    cases made
    exact ⟨hl, hf, hs, hc, nofun⟩
  · rintro ⟨hl, hf, hs, hc, -⟩
    exact ⟨_, _, ⟨_, _, ⟨_, _, ⟨_, _, rfl, hl, rfl⟩, hf, rfl⟩, hs, rfl⟩, hc, rfl⟩

/-- A section of a table is a table, if it is there. -/
def Section.Readable (section_ : Section) (t : Table) : Prop :=
  ∀ v, t.get? section_.name = some v → v.table?.isSome

/-- A section is read from its fields; without them it is the default. -/
theorem section?_eq_ok_iff {α : Type} {section_ : Section} {model : String} {default x : α}
    {read : Table → Checked α} (bare : read [] = .ok default) :
    (section? t section_.name default (readTable model read) = .ok x) ↔
      section_.Readable t ∧ read (t.fields section_.name) = .ok x := by
  unfold section? Section.Readable Table.fields
  cases t.get? section_.name with
  | none => simp [bare]
  | some v =>
    simp only [Option.some.injEq, forall_eq', Option.bind_some, readTable]
    cases v.table? with
    | none => simp [Except.mapError]
    | some fields =>
      simp only [Option.isSome_some, true_and, Option.getD_some]
      cases read fields <;> simp [Except.mapError]

/-- **A table is read as settings field by field**, if its sections are tables. -/
theorem ofTable_eq_ok_iff :
    ofTable t = .ok s ↔
      (∀ section_ : Section, section_.Readable t) ∧
        ∀ f : Field, f.validate (f.valueIn t) = .ok (s.content f) := by
  have client {c : Client} :
      (section? t Section.client.name {} Client.read = .ok c) ↔
        Section.client.Readable t ∧ Client.ofTable (t.fields Section.client.name) = .ok c := by
    exact section?_eq_ok_iff rfl
  have log {o : Observability} :
      (section? t Section.observability.name {} Observability.read = .ok o) ↔
        Section.observability.Readable t ∧
          Observability.ofTable (t.fields Section.observability.name) = .ok o := by
    exact section?_eq_ok_iff rfl
  simp only [ofTable, Checked.apply_eq_ok_iff]
  constructor
  · rintro ⟨_, o, ⟨_, c, made, readsClient, rfl⟩, readsLog, rfl⟩
    cases made
    obtain ⟨clientTable, readsClient⟩ := client.mp readsClient
    obtain ⟨logTable, readsLog⟩ := log.mp readsLog
    rw [Client.ofTable_eq_ok_iff] at readsClient
    rw [Observability.ofTable_eq_ok_iff] at readsLog
    refine ⟨fun section_ => ?_, fun f => ?_⟩
    · cases section_
      · exact clientTable
      · exact logTable
    · cases f
      all_goals first
        | exact readsClient _ (by decide)
        | exact readsLog _ (by decide)
  · rintro ⟨tables, fields⟩
    refine ⟨_, s.observability, ⟨_, s.client, rfl, client.mpr ⟨tables .client, ?_⟩, rfl⟩,
      log.mpr ⟨tables .observability, ?_⟩, rfl⟩
    · exact Client.ofTable_eq_ok_iff.mpr fun f hf => by
        have := fields f
        fin_cases hf <;> exact this
    · exact Observability.ofTable_eq_ok_iff.mpr fun f hf => by
        have := fields f
        fin_cases hf <;> exact this

/-- A table is read exactly if each of its settings is valid, and its sections are tables. -/
theorem exists_ofTable_eq_ok_iff :
    (∃ s, ofTable t = .ok s) ↔
      (∀ section_ : Section, section_.Readable t) ∧ ∀ f : Field, ∃ x, f.validate (f.valueIn t) = .ok x := by
  simp only [ofTable_eq_ok_iff]
  constructor
  · rintro ⟨s, tables, fields⟩
    exact ⟨tables, fun f => ⟨_, fields f⟩⟩
  · rintro ⟨tables, fields⟩
    choose x hx using fields
    exact ⟨ofContents x, tables, fun f => by rw [content_ofContents, hx]⟩

end PortMap.Settings
