import PortMap.Proofs.Settings.Content
import PortMap.Proofs.Settings.Loading

/-!
# Where each setting comes from

Settings have three sources: their variables in the environment, the table of the file, and the defaults.
`Field.loaded` is what becomes of one setting, from its own variable, from its own place in the table, or
from its default, whichever is there first. A section of the table that is no table blocks the loading
(`Section.Blocked`), unless a variable of that section is set, which replaces it.

## What is proved

* `sectioned_toTable`, `valueIn_toTable` — the table of the environment holds the typed text of each
  variable in the place of its setting, and nothing else.
* `ofSources_eq_ok_iff`, `ofSources_complains_iff` — when settings are loaded, and which.
* `settings_precedence` — **each setting is loaded from its own sources alone**, in every store, and
  loading ends with a complaint exactly if one of them is invalid or a section blocks it.
-/

namespace PortMap.Settings

open Disk

namespace Field

/-! ### Variables -/

/-- How the text of the variable of a setting is typed. -/
def typing : Field → Environment.Typing
  | .gateway | .logFile => .text
  | .logLevel => .capitals
  | _ => .free

/-- The variable of the environment that holds a setting: it is called as the setting is, in capitals. -/
def variable_ (f : Field) : Environment.Variable where
  name := "NATPMPC_" ++ String.ofList (f.name.toList.map Char.toUpper)
  section_ := f.section_.name
  key := f.name
  typing := f.typing

theorem known_eq : Environment.known = all.map variable_ := rfl

/-- The value of a setting in the environment, if its variable is set. -/
def inEnvironment (f : Field) (e : Environment) : Option Value :=
  (e.lookup f.variable_.name).map fun text => Environment.typed text f.typing

/-- What the text of a variable is typed as is no table. -/
theorem table?_typed (text : String) (typing : Environment.Typing) :
    (Environment.typed text typing).table? = none := by
  cases typing with
  | text | capitals => rfl
  | free =>
    rw [Environment.typed, Environment.typeFree]
    cases Environment.flagWords.lookup _ with
    | some b => rfl
    | none =>
      dsimp only
      split
      · cases readFloat? text.toList <;> rfl
      · cases readInt? text.toList <;> rfl

/-- Sets a setting in a table, if its variable is set. -/
def put (e : Environment) (t : Table) (f : Field) : Table :=
  match f.inEnvironment e with
  | some v => Environment.putWithin t f.section_.name f.name v
  | none => t

theorem toTable_eq (e : Environment) : e.toTable = all.foldl (put e) [] := by
  rw [Environment.toTable, known_eq, List.foldl_map]
  congr 1
  funext t f
  unfold put inEnvironment
  cases e.lookup f.variable_.name <;> rfl

variable {e : Environment} {t : Table} {f g : Field}

theorem sectioned_put (h : t.Sectioned) : (put e t f).Sectioned := by
  unfold put
  cases set : f.inEnvironment e with
  | none => exact h
  | some v =>
    obtain ⟨text, -, rfl⟩ := Option.map_eq_some_iff.mp set
    exact Environment.sectioned_putWithin h (table?_typed text f.typing)

theorem valueIn_put :
    g.valueIn (put e t f) = if g = f then (f.inEnvironment e).or (f.valueIn t) else g.valueIn t := by
  unfold put valueIn
  by_cases h : g = f
  · subst h
    rw [if_pos rfl]
    cases g.inEnvironment e with
    | none => rfl
    | some v =>
      simp only [Environment.fields_putWithin, if_true, Table.get?_put, Option.some_or]
  · rw [if_neg h]
    cases f.inEnvironment e with
    | none => rfl
    | some v =>
      have other : g.name ≠ f.name := fun same => h (name_injective same)
      simp only [Environment.fields_putWithin]
      split
      · rename_i same
        rw [Table.get?_put, if_neg other, same]
      · rfl

/-- A section is there after a setting was set in it, or if it was there before. -/
theorem isSome_get?_put {s : String} :
    ((put e t f).get? s).isSome ↔
      (t.get? s).isSome ∨ f.section_.name = s ∧ (f.inEnvironment e).isSome := by
  unfold put
  cases f.inEnvironment e with
  | none => simp
  | some v =>
    simp only [Environment.get?_putWithin]
    by_cases h : s = f.section_.name
    · simp [h]
    · simp [h, Ne.symm h]

end Field

/-! ### The table of the environment -/

section Fold

variable {e : Environment} {t : Table}

theorem sectioned_foldl (fs : List Field) (h : t.Sectioned) : (fs.foldl (Field.put e) t).Sectioned := by
  induction fs generalizing t with
  | nil => exact h
  | cons f fs ih => exact ih (Field.sectioned_put h)

theorem valueIn_foldl (fs : List Field) (g : Field) :
    g.valueIn (fs.foldl (Field.put e) t) =
      if g ∈ fs then (g.inEnvironment e).or (g.valueIn t) else g.valueIn t := by
  induction fs generalizing t with
  | nil => rfl
  | cons f fs ih =>
    rw [List.foldl_cons, ih, Field.valueIn_put]
    by_cases h : g = f
    · subst h
      -- set a second time, a setting is what it was
      cases g.inEnvironment e <;> simp
    · simp [h]

theorem isSome_get?_foldl (fs : List Field) {s : String} :
    ((fs.foldl (Field.put e) t).get? s).isSome ↔
      (t.get? s).isSome ∨ ∃ f ∈ fs, f.section_.name = s ∧ (f.inEnvironment e).isSome := by
  induction fs generalizing t with
  | nil => simp
  | cons f fs ih =>
    rw [List.foldl_cons, ih, Field.isSome_get?_put]
    simp [or_assoc]

end Fold

variable {file : Table} {e : Environment} {s : Settings}

theorem sectioned_toTable (e : Environment) : e.toTable.Sectioned := by
  rw [Field.toTable_eq]
  exact sectioned_foldl _ .nil

/-- The table of the environment holds a setting if its variable is set, as the text is typed. -/
theorem valueIn_toTable (f : Field) (e : Environment) : f.valueIn e.toTable = f.inEnvironment e := by
  have nothing : f.valueIn [] = none := rfl
  rw [Field.toTable_eq, valueIn_foldl, if_pos (Field.mem_all f), nothing, Option.or_none]

theorem isSome_get?_toTable (section_ : Section) (e : Environment) :
    (e.toTable.get? section_.name).isSome ↔
      ∃ f : Field, f.section_ = section_ ∧ (f.inEnvironment e).isSome := by
  have names {a b : Section} : a.name = b.name ↔ a = b := by
    cases a <;> cases b <;> decide
  rw [Field.toTable_eq, isSome_get?_foldl]
  simp [Field.mem_all, names, Table.get?]

/-! ### Sources -/

/-- **What becomes of a setting**: its variable decides, or else its place in the table of the file, or
else its default. -/
def Field.loaded (f : Field) (file : Table) (e : Environment) : Except Problem f.Content :=
  match e.lookup f.variable_.name with
  | some text => f.read (Environment.typed text f.typing)
  | none =>
    match f.valueIn file with
    | some v => f.read v
    | none => .ok (content {} f)

theorem loaded_congr {file file' : Table} {e e' : Environment} {f : Field}
    (place : f.valueIn file' = f.valueIn file)
    (text : e'.lookup f.variable_.name = e.lookup f.variable_.name) :
    f.loaded file' e' = f.loaded file e := by
  rw [Field.loaded, Field.loaded, place, text]

/-- A section of the file is no table, and no variable of it is set. -/
def Section.Blocked (section_ : Section) (file : Table) (e : Environment) : Prop :=
  (∃ v, file.get? section_.name = some v ∧ v.table? = none) ∧
    ∀ f : Field, f.section_ = section_ → e.lookup f.variable_.name = none

theorem validate_overlay (f : Field) (file : Table) (e : Environment) :
    f.validate (f.valueIn (Table.overlay file e.toTable)) = f.loaded file e := by
  have env := valueIn_toTable f e
  unfold Field.valueIn at env
  rw [Field.valueIn, Table.get?_fields_overlay (sectioned_toTable e), env]
  unfold Field.inEnvironment Field.loaded Field.valueIn
  cases e.lookup f.variable_.name with
  | some text => rfl
  | none =>
    cases (file.fields f.section_.name).get? f.name <;> rfl

theorem readable_overlay (section_ : Section) (file : Table) (e : Environment) :
    section_.Readable (Table.overlay file e.toTable) ↔ ¬ section_.Blocked file e := by
  have covers := Table.get?_overlay_section (sectioned_toTable e) file section_.name
  unfold Section.Readable Section.Blocked
  by_cases set : (e.toTable.get? section_.name).isSome
  · obtain ⟨f, hf, hs⟩ := (isSome_get?_toTable section_ e).mp set
    rw [if_pos set] at covers
    obtain ⟨v, hv, isTable⟩ := covers
    refine iff_of_true ?_ ?_
    · rintro w hw
      cases hv.symm.trans hw
      exact isTable
    · rintro ⟨-, unset⟩
      rw [Field.inEnvironment, unset f hf] at hs
      cases hs
  · have unset : ∀ f : Field, f.section_ = section_ → e.lookup f.variable_.name = none := by
      intro f hf
      by_contra h
      refine set ((isSome_get?_toTable section_ e).mpr ⟨f, hf, ?_⟩)
      rw [Field.inEnvironment, Option.isSome_map]
      exact Option.isSome_iff_ne_none.mpr h
    rw [if_neg set] at covers
    simp only [covers, and_iff_left unset, not_exists, not_and]
    refine forall_congr' fun v => imp_congr_right fun _ => ?_
    rw [Option.isSome_iff_ne_none]

theorem ofSources_eq_ok_iff_ofTable :
    ofSources file e = .ok s ↔ ofTable (Table.overlay file e.toTable) = .ok s := by
  unfold ofSources
  cases ofTable (Table.overlay file e.toTable) <;> simp [Except.mapError]

/-- **Settings are loaded field by field.** -/
theorem ofSources_eq_ok_iff :
    ofSources file e = .ok s ↔
      (∀ section_ : Section, ¬ section_.Blocked file e) ∧
        ∀ f : Field, f.loaded file e = .ok (s.content f) := by
  simp only [ofSources_eq_ok_iff_ofTable, ofTable_eq_ok_iff, readable_overlay, validate_overlay]

/-- **Loading ends with a complaint** if a section is blocked, or a setting is invalid, and only then. -/
theorem ofSources_complains_iff :
    (∃ fault, ofSources file e = .error fault ∧ fault.IsComplaint) ↔
      (∃ section_ : Section, section_.Blocked file e) ∨
        ∃ (f : Field) (p : Problem), f.loaded file e = .error p := by
  have loads : (∃ s, ofSources file e = .ok s) ↔
      (∀ section_ : Section, ¬ section_.Blocked file e) ∧
        ∀ f : Field, ∃ x, f.loaded file e = .ok x := by
    simp only [ofSources_eq_ok_iff_ofTable, exists_ofTable_eq_ok_iff, readable_overlay, validate_overlay]
  have complains : (∃ fault, ofSources file e = .error fault ∧ fault.IsComplaint) ↔
      ¬ ∃ s, ofSources file e = .ok s := by
    constructor
    · rintro ⟨fault, fails, -⟩ ⟨s, loads⟩
      cases fails.symm.trans loads
    · exact (ofSources_loadsOrComplains file e).resolve_left
  have invalid (f : Field) : (∃ p, f.loaded file e = .error p) ↔ ¬ ∃ x, f.loaded file e = .ok x := by
    cases f.loaded file e <;> simp
  rw [complains, loads, not_and_or]
  simp only [not_forall, not_not, ← invalid]

/-! ### Stores -/

/-- The table that a file contributes, or why it stops the loading; without a file it is empty. -/
def contribution (t : Tree) : Option Path → Except Fault Table
  | none => .ok []
  | some p => (readFile t p).1

theorem contribution_of_unread {t : Tree} {found : Option Path}
    (h : ∀ p, found = some p → ∃ cause, Unread t p cause) : contribution t found = .ok [] := by
  cases found with
  | none => rfl
  | some p =>
    obtain ⟨cause, unread⟩ := h p rfl
    rw [contribution, readFile_eq_of_unread unread]

/-- A store loads the settings from the table that the file contributes. -/
theorem Store.init_eq_ofSources {named found : Option Path} {st : Store}
    (finds : findFile st.tree named = .ok found) (contributes : contribution st.tree found = .ok file) :
    (Store.init named st).1 = (ofSources file st.environment).map fun s => ⟨found, ⟨s, []⟩⟩ := by
  rw [(Store.init_of_found finds).1]
  congr 1
  cases found with
  | none =>
    cases contributes
    rfl
  | some p =>
    rw [contribution] at contributes
    rw [load]
    rcases h : readFile st.tree p with ⟨r, notices⟩
    rw [h] at contributes
    cases contributes
    rfl

/-- **Each setting is loaded from its own sources alone.** The table of the file, empty where no file is
read, may hold anything, and the environment too. -/
theorem settings_precedence (file : Table) (e : Environment) :
    -- the settings of a store are those of the table and the environment
    (∀ (named found : Option Path) (st : Store), findFile st.tree named = .ok found →
      contribution st.tree found = .ok file → st.environment = e →
      (Store.init named st).1 = (ofSources file e).map fun s => ⟨found, ⟨s, []⟩⟩) ∧
    (∀ (t : Tree) (found : Option Path), (∀ p, found = some p → ∃ cause, Unread t p cause) →
      contribution t found = .ok []) ∧
    -- each of them is loaded from its variable, else from its place in the table, else by default
    (∀ s, ofSources file e = .ok s ↔
      (∀ section_ : Section, ¬ section_.Blocked file e) ∧
        ∀ f : Field, f.loaded file e = .ok (s.content f)) ∧
    -- loading ends with a complaint if one of them is invalid, or a section blocks it
    ((∃ fault, ofSources file e = .error fault ∧ fault.IsComplaint) ↔
      (∃ section_ : Section, section_.Blocked file e) ∨
        ∃ (f : Field) (p : Problem), f.loaded file e = .error p) ∧
    -- whatever else is in the table and the environment does not matter to a setting
    (∀ (file' : Table) (e' : Environment) (s s' : Settings) (f : Field),
      f.valueIn file' = f.valueIn file → e'.lookup f.variable_.name = e.lookup f.variable_.name →
      ofSources file e = .ok s → ofSources file' e' = .ok s' → s'.content f = s.content f) ∧
    -- nor does what stands in the places of settings whose variables are set
    (∀ file' : Table,
      (∀ f : Field, e.lookup f.variable_.name = none → f.valueIn file' = f.valueIn file) →
      (∀ section_ : Section, section_.Blocked file' e ↔ section_.Blocked file e) →
      ∀ s, ofSources file' e = .ok s ↔ ofSources file e = .ok s) := by
  refine ⟨fun named found st finds contributes same => ?_, fun t found => contribution_of_unread,
    fun s => ofSources_eq_ok_iff, ofSources_complains_iff,
    fun file' e' s s' f place text loads loads' => ?_, fun file' places blocked s => ?_⟩
  · rw [← same]
    exact Store.init_eq_ofSources finds contributes
  · have there := (ofSources_eq_ok_iff.mp loads).2 f
    rw [← loaded_congr place text, (ofSources_eq_ok_iff.mp loads').2 f] at there
    exact Except.ok.inj there
  · have same (f : Field) : f.loaded file' e = f.loaded file e := by
      cases set : e.lookup f.variable_.name with
      | none => exact loaded_congr (places f set) rfl
      | some text => rw [Field.loaded, Field.loaded, set]
    simp only [ofSources_eq_ok_iff, blocked, same]

/-- A number of attempts that is none, and a section that is no table, do no harm in a file where the
variables of the attempts and of the log level are set; and a store whose file is a directory loads what
its environment holds. -/
theorem settings_precedence_overridden :
    let file : Table := [("client", .table [("max_attempts", .text "many"), ("mapping_lifetime", .whole 60)]),
      ("observability", .whole 7)]
    let e : Environment := [("NATPMPC_MAX_ATTEMPTS", " +5"), ("NATPMPC_LOG_LEVEL", "info")]
    let st : Store := ⟨⟨"", ["cwd"], ["home"], [(["cwd", fileName], .directory)], [[]]⟩, e, none, []⟩
    ofSources file e = .ok ⟨{ maxAttempts := 5, mappingLifetime := 60 }, { logLevel := .info }⟩ ∧
      (Store.init none st).1 = .ok ⟨some ⟨some "", ["cwd", fileName]⟩,
        ⟨⟨{ maxAttempts := 5 }, { logLevel := .info }⟩, []⟩⟩ := by
  intro file e st
  refine ⟨?_, ?_⟩
  · obtain ⟨-, -, loads, -⟩ := settings_precedence file e
    refine (loads _).mpr ⟨fun section_ => ?_, fun f => ?_⟩
    · rintro ⟨-, unset⟩
      cases section_
      · exact absurd (unset .maxAttempts rfl) (by decide)
      · exact absurd (unset .logLevel rfl) (by decide)
    · cases f <;> rfl
  · obtain ⟨inStore, unread, loads, -⟩ := settings_precedence [] e
    have nothing := unread st.tree (some ⟨some "", ["cwd", fileName]⟩)
      fun p hp => ⟨_, .directory (by cases hp; rfl)⟩
    rw [inStore none _ st (by rfl) nothing rfl,
      (loads ⟨{ maxAttempts := 5 }, { logLevel := .info }⟩).mpr ⟨fun section_ => ?_, fun f => ?_⟩]
    · rfl
    · rintro ⟨⟨v, there, -⟩, -⟩
      cases there
    · cases f <;> rfl

end PortMap.Settings
