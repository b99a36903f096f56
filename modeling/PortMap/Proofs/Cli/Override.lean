import PortMap.Cli.Override
import PortMap.Proofs.Settings.OverlayAlgebra
import PortMap.Proofs.Settings.Valid

/-!
# What options do to settings

Options are laid over settings that are in use. `Updates` holds the values of the options, of any kind, and
`Updates.apply` lays them over the settings: the settings of the client are taken out as a table, the given
values are put in, and the table is read again; after that the log level is set. An outcome stands beside
the settings that are in use afterwards, so that what a refusal leaves behind can be told.

## The argument

The table that is read again has at each field the given value, or the value that the settings show
(`get?_overlay_table`). Settings that were read from a table once are read back from the values that they
show (`read_value`), so that a field that is not given is read as what it was. The reading as a whole
therefore depends on the given values alone (`overClient_eq_ok_iff`, `exists_overClient_eq_ok_iff`).

## What is proved

* `options_update_atomically` — **given values that are valid take the place of what their fields held, and
  nothing else changes but the log level; one that is not valid leaves all settings as they were**.
* `Options.laidOver_eq_ok_iff`, `Options.laidOver_eq_error_iff` — the options of a command line are laid over
  settings in this way.
-/

namespace PortMap

namespace Cli

open Settings (Checked Client Field Section)

/-- Values of any kind for the options that go over settings. An option with no value is not given. -/
structure Updates where
  /-- The gateway. -/
  gateway : Value := .null
  /-- The longest time of a receive. -/
  timeout : Value := .null
  /-- How often a receive is attempted. -/
  attempts : Value := .null
  /-- Whether there are delays between failed receives. -/
  backoff : Value := .null
  /-- How often more words were asked for. -/
  verbose : Nat := 0

namespace Updates

/-- The value that is given for a setting, if there is one. -/
def value? (u : Updates) : Field → Option Value
  | .gateway => u.gateway.present?
  | .timeout => u.timeout.present?
  | .maxAttempts => u.attempts.present?
  | .retryBackoff => u.backoff.present?
  | _ => none

/-- The settings that options are for. -/
def fields : List Field := [.gateway, .timeout, .maxAttempts, .retryBackoff]

/-- The values that are given, by the names of the settings. -/
def table (u : Updates) : Table := Field.tableOf u.value? fields

/-- The settings of the client with the given values in them. -/
def overClient (u : Updates) (c : Client) : Checked Client :=
  if u.table.isEmpty then .ok c else Client.ofTable (Table.overlay c.toTable u.table)

/-- Lays the given values over the settings in use, and says which settings are in use then. The settings of
the client are changed first, and the log level only after them. -/
def apply (u : Updates) (held : Settings) : Checked Unit × Settings :=
  match u.overClient held.client with
  | .error issues => (.error issues, held)
  | .ok client =>
    let held := { held with client := client }
    match Options.levelOf u.verbose with
    | none => (.ok (), held)
    | some level => (.ok (), { held with observability := { held.observability with logLevel := level } })

variable {u : Updates} {s s' : Settings} {issues : List Settings.Issue}

/-! ### The table that is read again -/

theorem mem_fields_of_value? {f : Field} {v : Value} (h : u.value? f = some v) : f ∈ fields := by
  cases f with
  | gateway | timeout | maxAttempts | retryBackoff => decide
  | _ => cases h

theorem mem_client_of_mem_fields {f : Field} (h : f ∈ fields) : f ∈ Section.client.fields := by
  fin_cases h <;> decide

theorem get?_table (u : Updates) (f : Field) : u.table.get? f.name = u.value? f := by
  rw [table, Field.get?_tableOf]
  split
  · rfl
  · rename_i other
    cases h : u.value? f with
    | none => rfl
    | some v => exact absurd (mem_fields_of_value? h) other

theorem nodup_names_table (u : Updates) : u.table.names.Nodup := Field.nodup_names_tableOf (by decide)

/-- The table that is read again has the given value at a field, or what the settings show there. -/
theorem get?_overlay_table (u : Updates) (s : Settings) {f : Field} (hf : f ∈ Section.client.fields) :
    (Table.overlay s.client.toTable u.table).get? f.name = some ((u.value? f).getD (s.value f)) := by
  rw [Table.get?_overlay u.nodup_names_table, Settings.get?_toTable s hf, get?_table]
  cases u.value? f with
  | none => rfl
  | some v => exact congrArg some (Value.overlay_of_not_table (s.table?_value f) v)

/-! ### What is read -/

/-- The settings of the client are read field by field, whether or not anything is given. -/
theorem overClient_eq_ok_iff (within : s.client.WithinBounds) {c : Client} :
    u.overClient s.client = .ok c ↔ ∀ f ∈ Section.client.fields,
      f.read ((u.value? f).getD (s.value f)) = .ok (Settings.content ⟨c, {}⟩ f) := by
  have again : (Client.ofTable (Table.overlay s.client.toTable u.table) = .ok c) ↔
      ∀ f ∈ Section.client.fields,
        f.read ((u.value? f).getD (s.value f)) = .ok (Settings.content ⟨c, {}⟩ f) :=
    Client.ofTable_eq_ok_iff.trans <| forall₂_congr fun f hf => by
      rw [get?_overlay_table u s hf]
      rfl
  unfold overClient
  split
  · rename_i nothing
    -- with nothing given, the table is that of the settings, which are read back from it
    rw [List.isEmpty_iff.mp nothing, Table.overlay, Client.withinBounds_iff.mp within] at again
    exact again
  · exact again

/-- The settings of the client can be read again exactly if each given value can. -/
theorem exists_overClient_eq_ok_iff (within : s.client.WithinBounds) :
    (∃ c, u.overClient s.client = .ok c) ↔ ∀ f v, u.value? f = some v → ∃ x, f.read v = .ok x := by
  simp only [overClient_eq_ok_iff within]
  constructor
  · rintro ⟨c, reads⟩ f v given
    have field := reads f (mem_client_of_mem_fields (mem_fields_of_value? given))
    rw [given] at field
    exact ⟨_, field⟩
  · intro valid
    have readable (f : Field) : ∃ x, f ∈ Section.client.fields →
        f.read ((u.value? f).getD (s.value f)) = .ok x := by
      cases h : u.value? f with
      | none => exact ⟨s.content f, fun _ => Settings.read_value within f⟩
      | some v =>
        obtain ⟨x, hx⟩ := valid f v h
        exact ⟨x, fun _ => hx⟩
    choose x hx using readable
    refine ⟨(Settings.ofContents x).client, fun f hf => ?_⟩
    rw [hx f hf, Settings.content_client _ hf, Settings.content_ofContents]

/-! ### What is in use afterwards -/

theorem apply_of_ok {c : Client} (h : u.overClient s.client = .ok c) :
    u.apply s = (.ok (), ⟨c, { s.observability with
      logLevel := (Options.levelOf u.verbose).getD s.observability.logLevel }⟩) := by
  rw [apply, h]
  cases Options.levelOf u.verbose <;> rfl

theorem apply_of_error (h : u.overClient s.client = .error issues) : u.apply s = (.error issues, s) := by
  rw [apply, h]

theorem apply_eq_ok_iff : u.apply s = (.ok (), s') ↔
    ∃ c, u.overClient s.client = .ok c ∧ s' = ⟨c, { s.observability with
      logLevel := (Options.levelOf u.verbose).getD s.observability.logLevel }⟩ := by
  cases h : u.overClient s.client with
  | ok c => simp [apply_of_ok h, eq_comm]
  | error issues => simp [apply_of_error h]

theorem apply_eq_error_iff : u.apply s = (.error issues, s') ↔
    u.overClient s.client = .error issues ∧ s' = s := by
  cases h : u.overClient s.client with
  | ok c => simp [apply_of_ok h]
  | error told => simp [apply_of_error h, eq_comm]

end Updates

/-! ### The options of a command line -/

namespace Options

/-- The values of the options of a command line. -/
def given (o : Options) : Updates where
  gateway := (o.gateway.map Value.text).getD .null
  timeout := (o.timeout.map Value.real).getD .null
  attempts := (o.attempts.map Value.whole).getD .null
  backoff := (o.backoff.map Value.flag).getD .null
  verbose := o.verbose

theorem table_given (o : Options) : o.given.table = o.clientTable := by
  obtain ⟨-, gateway, timeout, attempts, backoff, -⟩ := o
  cases gateway <;> cases timeout <;> cases attempts <;> cases backoff <;> rfl

theorem overClient_given (o : Options) (c : Client) : o.given.overClient c = o.overClient c := by
  rw [Updates.overClient, table_given, overClient]

variable {o : Options} {s s' : Settings} {issues : List Settings.Issue}

theorem laidOver_eq_ok_iff : o.laidOver s = .ok s' ↔ o.given.apply s = (.ok (), s') := by
  rw [Updates.apply_eq_ok_iff, overClient_given, laidOver]
  cases o.overClient s.client <;> simp [given, eq_comm]

theorem laidOver_eq_error_iff : o.laidOver s = .error issues ↔ o.given.apply s = (.error issues, s) := by
  rw [Updates.apply_eq_error_iff, overClient_given, laidOver]
  cases o.overClient s.client <;> simp

end Options

/-! ### The update as a whole -/

/-- **Options change settings in one piece.** Settings that were read from a table are read back from the
values that they show. Whatever values are given for the options: if they are taken, each given value was
valid, its field holds it, every other field holds what it held, and the log level alone depends on the
verbosity; if they are refused, which happens exactly if a given value is not valid for its field, all
settings are as they were. The options of a command line are such values. -/
theorem options_update_atomically (valid : s.Valid) :
    Client.ofTable s.client.toTable = .ok s.client ∧
    (∀ (u : Updates) (s' : Settings), u.apply s = (.ok (), s') →
      (∀ f v, u.value? f = some v → f.read v = .ok (s'.content f)) ∧
      (∀ f, u.value? f = none → f ≠ .logLevel → s'.content f = s.content f) ∧
      (u.verbose = 0 → s'.observability = s.observability) ∧
      (u.verbose = 1 → s'.observability = { s.observability with logLevel := .info }) ∧
      (2 ≤ u.verbose → s'.observability = { s.observability with logLevel := .debug })) ∧
    (∀ (u : Updates) (issues : List Settings.Issue) (s' : Settings), u.apply s = (.error issues, s') → s' = s) ∧
    (∀ u : Updates, (∃ issues, (u.apply s).1 = .error issues) ↔
      ∃ f v p, u.value? f = some v ∧ f.read v = .error p) ∧
    (∀ o : Options, (∀ s', o.laidOver s = .ok s' ↔ o.given.apply s = (.ok (), s')) ∧
      ∀ issues, o.laidOver s = .error issues ↔ o.given.apply s = (.error issues, s)) := by
  have within := valid.withinBounds
  refine ⟨Client.withinBounds_iff.mp within, fun u s' taken => ?_, fun u issues s' refused => ?_,
    fun u => ?_, fun o => ⟨fun s' => Options.laidOver_eq_ok_iff, fun issues => Options.laidOver_eq_error_iff⟩⟩
  · obtain ⟨c, reads, rfl⟩ := Updates.apply_eq_ok_iff.mp taken
    have fields := (Updates.overClient_eq_ok_iff within).mp reads
    have held {f : Field} (hf : f ∈ Section.client.fields) :
        f.read ((u.value? f).getD (s.value f)) = .ok (Settings.content ⟨c, { s.observability with
          logLevel := (Options.levelOf u.verbose).getD s.observability.logLevel }⟩ f) := by
      have field := fields f hf
      rwa [← Settings.content_client _ hf]
    refine ⟨fun f v given => ?_, fun f absent other => ?_, fun none_ => ?_, fun one => ?_, fun more => ?_⟩
    · have field := held (Updates.mem_client_of_mem_fields (Updates.mem_fields_of_value? given))
      rwa [given] at field
    · by_cases hf : f ∈ Section.client.fields
      · have field := held hf
        rw [absent, Option.getD_none, Settings.read_value within f] at field
        exact (Except.ok.inj field).symm
      · cases f with
        | logLevel => exact absurd rfl other
        | logFile | structuredLogging | logCorrelationId => rfl
        | _ => exact absurd (by decide) hf
    · rw [none_]
      rfl
    · rw [one]
      rfl
    · obtain ⟨n, hn⟩ := Nat.exists_eq_add_of_le' more
      rw [hn]
      rfl
  · exact (Updates.apply_eq_error_iff.mp refused).2
  · have readable := Updates.exists_overClient_eq_ok_iff (u := u) within
    cases h : u.overClient s.client with
    | ok c =>
      refine iff_of_false ?_ ?_
      · rw [Updates.apply_of_ok h]
        rintro ⟨issues, told⟩
        cases told
      · rintro ⟨f, v, p, given, refused⟩
        obtain ⟨x, taken⟩ := readable.mp ⟨c, h⟩ f v given
        rw [taken] at refused
        cases refused
    | error issues =>
      refine iff_of_true ⟨issues, congrArg Prod.fst (Updates.apply_of_error h)⟩ ?_
      by_contra none_
      have valid' : ∀ f v, u.value? f = some v → ∃ x, f.read v = .ok x := by
        intro f v given
        cases reads : f.read v with
        | ok x => exact ⟨x, rfl⟩
        | error p => exact absurd ⟨f, v, p, given, reads⟩ none_
      obtain ⟨c, taken⟩ := readable.mpr valid'
      rw [h] at taken
      cases taken

/-- Seven attempts are taken over the defaults, with the log level that a verbosity of two asks for; no attempt
at all is refused. -/
theorem options_update_atomically_over_defaults :
    (∀ s', Updates.apply { attempts := .whole 7, verbose := 2 } {} = (.ok (), s') →
      s'.client.maxAttempts = 7 ∧ s'.client.timeout = .quarter ∧ s'.observability = { logLevel := .debug }) ∧
    (∃ s', Updates.apply { attempts := .whole 7, verbose := 2 } {} = (.ok (), s')) ∧
    ∃ issues, Updates.apply { attempts := .whole 0, verbose := 2 } {} = (.error issues, {}) := by
  obtain ⟨-, taken, kept, refused, -⟩ := options_update_atomically Settings.valid_default
  refine ⟨fun s' h => ?_, ?_, ?_⟩
  · obtain ⟨given, rest, -, -, level⟩ := taken _ s' h
    exact ⟨(Except.ok.inj (given .maxAttempts _ rfl)).symm, rest .timeout rfl (by decide), level (by decide)⟩
  · cases h : Updates.apply { attempts := .whole 7, verbose := 2 } {} with
    | mk told s' =>
      cases told with
      | ok => exact ⟨s', rfl⟩
      | error issues =>
        obtain ⟨f, v, p, given, notTaken⟩ := (refused _).mp ⟨issues, congrArg Prod.fst h⟩
        cases f <;> cases given
        cases notTaken
  · obtain ⟨issues, told⟩ := (refused { attempts := .whole 0, verbose := 2 }).mpr
      ⟨.maxAttempts, _, .below 1, rfl, rfl⟩
    cases h : Updates.apply { attempts := .whole 0, verbose := 2 } {} with
    | mk outcome s' =>
      rw [h] at told
      cases told
      exact ⟨issues, by rw [kept _ issues s' h]⟩

end Cli

end PortMap
