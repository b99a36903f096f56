import PortMap.Settings.Store

/-!
# How loading settings ends

Settings are loaded from a file and from the environment. Whoever loads them expects settings, or a
complaint about the configuration (`LoadsOrComplains`). A file that is found is read to its end, or is
not read and contributes nothing but a warning (`Unread`), or stops the loading (`Stops`).

## What is proved

* `findFile_cases`, `readFile_cases` — how looking for a file ends, and how reading it does.
* `readFile_eq_of_unread` — a file that is not read contributes an empty table and one warning.
* `init_loadsOrComplains` — **loading ends as expected exactly if nothing stops it** (`Obstructed`), and
  what a store loads from a file that is not read is what a store without a file loads, with a warning.
* `undecodable_file_escapes` — a byte outside of UTF-8 is one of the things that stop it.
-/

namespace PortMap.Settings

open Disk Log

/-! ### Finding a file -/

/-- Looking through paths ends with a path, with none, or at one that is too long. -/
theorem firstThere_cases (t : Tree) (paths : List Path) :
    (∃ file, firstThere t paths = .ok file) ∨
      ∃ p, t.isBeyondLimits p ∧ firstThere t paths = .error (.pathTooLong p) := by
  induction paths with
  | nil => exact .inl ⟨none, rfl⟩
  | cons p rest ih =>
    rw [firstThere]
    by_cases tooLong : t.isBeyondLimits p
    · exact .inr ⟨p, tooLong, if_pos tooLong⟩
    · rw [if_neg tooLong]
      by_cases there : t.isThere p
      · exact .inl ⟨some p, if_pos there⟩
      · rw [if_neg there]
        exact ih

theorem findFile_cases (t : Tree) (named : Option Path) :
    (∃ file, findFile t named = .ok file) ∨
      (∃ p, t.isBeyondLimits p ∧ findFile t named = .error (.pathTooLong p)) ∨
      ∃ p, findFile t named = .error (.fileNotFound p) := by
  cases named with
  | none =>
    rcases firstThere_cases t (searchPaths t) with found | tooLong
    · exact .inl found
    · exact .inr (.inl tooLong)
  | some p =>
    rw [findFile]
    by_cases tooLong : t.isBeyondLimits p
    · exact .inr (.inl ⟨p, tooLong, if_pos tooLong⟩)
    · rw [if_neg tooLong]
      by_cases there : t.isFile p
      · exact .inl ⟨some p, if_pos there⟩
      · exact .inr (.inr ⟨p, if_neg there⟩)

/-! ### Reading a file -/

/-- What stands at a path is not read, for a cause that the warning names. -/
inductive Unread (t : Tree) (p : Path) : String → Prop
  /-- It is a directory. -/
  | directory : t.get? p = some .directory → Unread t p "IsADirectoryError"
  /-- It may not be read. -/
  | locked : t.get? p = some .locked → Unread t p "PermissionError"
  /-- It is a text, but not in TOML. -/
  | malformed {d : List UInt8} {s : List Char} : t.get? p = some (.file d) → Text.readUtf8 d = .ok s →
      Toml.read (Text.unixBreaks s) = .error .malformed → Unread t p "TomlDecodeError"

/-- What stands at a path stops the loading, with a fault. -/
inductive Stops (t : Tree) (p : Path) : Fault → Prop
  /-- It is no text. -/
  | undecodable {d : List UInt8} {u : Text.Undecodable} : t.get? p = some (.file d) →
      Text.readUtf8 d = .error u → Stops t p (.undecodable u)
  /-- It is a text at which reading TOML fails in a way of its own. -/
  | unreadable {d : List UInt8} {s : List Char} {f : Toml.Fault} : t.get? p = some (.file d) →
      Text.readUtf8 d = .ok s → Toml.read (Text.unixBreaks s) = .error f → f ≠ .malformed →
      Stops t p (.unreadable f)

variable {t : Tree} {p : Path} {cause : String} {fault : Fault}

theorem readFile_eq_of_unread (h : Unread t p cause) :
    readFile t p = (.ok [], [unreadNotice p cause]) := by
  unfold readFile
  cases h with
  | directory at_ | locked at_ => rw [at_]
  | malformed at_ text table => simp only [at_, text, table]

theorem readFile_eq_of_stops (h : Stops t p fault) : readFile t p = (.error fault, []) := by
  unfold readFile
  cases h with
  | undecodable at_ text => simp only [at_, text]
  | unreadable at_ text table other => simp only [at_, text, table]

theorem readFile_cases (t : Tree) (p : Path) :
    (∃ table, readFile t p = (.ok table, [])) ∨ (∃ cause, Unread t p cause) ∨
      ∃ fault, Stops t p fault := by
  cases at_ : t.get? p with
  | none => exact .inl ⟨[], by rw [readFile, at_]⟩
  | some e =>
    cases e with
    | directory => exact .inr (.inl ⟨_, .directory at_⟩)
    | locked => exact .inr (.inl ⟨_, .locked at_⟩)
    | file d =>
      cases text : Text.readUtf8 d with
      | error u => exact .inr (.inr ⟨_, .undecodable at_ text⟩)
      | ok s =>
        cases table : Toml.read (Text.unixBreaks s) with
        | ok fields => exact .inl ⟨fields, by simp only [readFile, at_, text, table]⟩
        | error f =>
          by_cases malformed : f = .malformed
          · exact .inr (.inl ⟨_, .malformed at_ text (malformed ▸ table)⟩)
          · exact .inr (.inr ⟨_, .unreadable at_ text table malformed⟩)

/-! ### Loading -/

/-- A fault that is a complaint about the configuration. -/
def Fault.IsComplaint (f : Fault) : Prop := ∃ c, f.account = .inl c ∧ c.kind = .configuration

/-- Loading ends with something loaded, or with a complaint about the configuration. -/
def LoadsOrComplains {α : Type} (r : Except Fault α) : Prop :=
  (∃ a, r = .ok a) ∨ ∃ f, r = .error f ∧ f.IsComplaint

theorem loadsOrComplains_error_iff {α : Type} :
    LoadsOrComplains (.error fault : Except Fault α) ↔ fault.IsComplaint := by
  constructor
  · rintro (⟨a, loaded⟩ | ⟨f, failed, complaint⟩)
    · cases loaded
    · cases failed
      exact complaint
  · intro complaint
    exact .inr ⟨fault, rfl, complaint⟩

theorem LoadsOrComplains.map {α β : Type} {r : Except Fault α} (h : LoadsOrComplains r) (f : α → β) :
    LoadsOrComplains (r.map f) := by
  rcases h with ⟨a, rfl⟩ | ⟨e, rfl, complaint⟩
  · exact .inl ⟨f a, rfl⟩
  · exact .inr ⟨e, rfl, complaint⟩

/-- Whatever a file holds and the environment, checking it has an expected ending. -/
theorem ofSources_loadsOrComplains (file : Table) (e : Environment) :
    LoadsOrComplains (ofSources file e) := by
  unfold ofSources
  cases ofTable (Table.overlay file e.toTable) with
  | ok settings => exact .inl ⟨settings, rfl⟩
  | error issues => exact .inr ⟨.invalid issues, rfl, _, rfl, rfl⟩

theorem Stops.not_isComplaint (h : Stops t p fault) : ¬ fault.IsComplaint := by
  rintro ⟨c, complaint, -⟩
  cases h with
  | undecodable | unreadable => cases complaint

/-- **A file that is not read contributes nothing but a warning.** -/
theorem load_eq_of_unread (h : Unread t p cause) (e : Environment) :
    load t e (some p) = ((load t e none).1, [unreadNotice p cause]) := by
  simp only [load, readFile_eq_of_unread h]

theorem load_eq_of_stops (h : Stops t p fault) (e : Environment) :
    load t e (some p) = (.error fault, []) := by
  simp only [load, readFile_eq_of_stops h]

theorem load_loadsOrComplains (e : Environment) (unstopped : ∀ fault, ¬ Stops t p fault) :
    LoadsOrComplains (load t e (some p)).1 := by
  rcases readFile_cases t p with ⟨table, read⟩ | ⟨cause, unread⟩ | ⟨fault, stops⟩
  · simp only [load, read]
    exact ofSources_loadsOrComplains table e
  · rw [load_eq_of_unread unread]
    exact ofSources_loadsOrComplains [] e
  · exact absurd stops (unstopped fault)

namespace Store

variable {named file : Option Path} {s : Store}

theorem init_eq_of_error (h : findFile s.tree named = .error fault) : init named s = (.error fault, s) := by
  rw [init, h]

/-- What a store loads from the file that is found, and what it writes about it. -/
theorem init_of_found (h : findFile s.tree named = .ok file) :
    (init named s).1 = (load s.tree s.environment file).1.map (fun settings => ⟨file, ⟨settings, []⟩⟩) ∧
      (init named s).2.notices = s.notices ++ (load s.tree s.environment file).2 := by
  simp only [init, h]
  rcases load s.tree s.environment file with ⟨_ | _, notices⟩ <;> exact ⟨rfl, rfl⟩

/-- Something stops a store from loading settings. -/
inductive Obstructed (named : Option Path) (s : Store) : Prop
  /-- A path at which a file is looked for is too long. -/
  | tooLong {p : Path} : s.tree.isBeyondLimits p → findFile s.tree named = .error (.pathTooLong p) →
      Obstructed named s
  /-- The file that is found stops it. -/
  | stopped {p : Path} {fault : Fault} : findFile s.tree named = .ok (some p) → Stops s.tree p fault →
      Obstructed named s

/-- A store that has found a file, or that there is none, is stopped by what stands there alone. -/
theorem obstructed_iff_of_found (found : findFile s.tree named = .ok file) :
    Obstructed named s ↔ ∃ p fault, file = some p ∧ Stops s.tree p fault := by
  constructor
  · intro obstructed
    cases obstructed with
    | tooLong _ ends => cases found.symm.trans ends
    | stopped found' stops =>
      cases found.symm.trans found'
      exact ⟨_, _, rfl, stops⟩
  · rintro ⟨p, fault, rfl, stops⟩
    exact .stopped found stops

theorem not_obstructed_of_missing (missing : findFile s.tree named = .error (.fileNotFound p)) :
    ¬ Obstructed named s := by
  intro obstructed
  cases obstructed with
  | tooLong _ ends => cases missing.symm.trans ends
  | stopped found => cases missing.symm.trans found

theorem init_loadsOrComplains_of_found (found : findFile s.tree named = .ok file) :
    LoadsOrComplains (init named s).1 ↔ ¬ Obstructed named s := by
  rw [(init_of_found found).1, obstructed_iff_of_found found]
  by_cases h : ∃ p fault, file = some p ∧ Stops s.tree p fault
  · obtain ⟨p, fault, rfl, stops⟩ := h
    rw [load_eq_of_stops stops]
    exact iff_of_false (mt loadsOrComplains_error_iff.mp stops.not_isComplaint)
      (not_not_intro ⟨p, fault, rfl, stops⟩)
  · refine iff_of_true (LoadsOrComplains.map ?_ _) h
    cases file with
    | none => exact ofSources_loadsOrComplains [] s.environment
    | some p => exact load_loadsOrComplains s.environment fun fault stops => h ⟨p, fault, rfl, stops⟩

theorem init_loadsOrComplains_iff (named : Option Path) (s : Store) :
    LoadsOrComplains (init named s).1 ↔ ¬ Obstructed named s := by
  rcases findFile_cases s.tree named with ⟨file, found⟩ | ⟨p, tooLong, ends⟩ | ⟨p, missing⟩
  · exact init_loadsOrComplains_of_found found
  · rw [init_eq_of_error ends, loadsOrComplains_error_iff]
    refine iff_of_false ?_ (not_not_intro (.tooLong tooLong ends))
    rintro ⟨c, complaint, -⟩
    cases complaint
  · rw [init_eq_of_error missing, loadsOrComplains_error_iff]
    exact iff_of_true ⟨_, rfl, rfl⟩ (not_obstructed_of_missing missing)

/-- A store with a file that is not read loads what a store loads that finds none, and writes one warning
more. -/
theorem init_of_unread {bare : Store} (found : findFile s.tree named = .ok (some p))
    (unread : Unread s.tree p cause) (none_ : findFile bare.tree none = .ok none)
    (environment : bare.environment = s.environment) :
    (init named s).1.map Loaded.held = (init none bare).1.map Loaded.held ∧
      (init named s).2.notices = s.notices ++ [unreadNotice p cause] ∧
      (init none bare).2.notices = bare.notices := by
  obtain ⟨loads, writes⟩ := init_of_found found
  obtain ⟨loads', writes'⟩ := init_of_found none_
  rw [load_eq_of_unread unread] at loads writes
  rw [environment] at loads' writes'
  -- no file is read on either side, so the two trees do not matter
  have same : load bare.tree s.environment none = load s.tree s.environment none := rfl
  rw [loads, writes, loads', writes', same]
  refine ⟨?_, rfl, List.append_nil _⟩
  cases (load s.tree s.environment none).1 <;> rfl

/-- **How loading settings ends.** Whatever file is named, whatever the files hold and the environment, a
store loads settings or complains about the configuration, unless a path is too long to be looked up or
the file that is found is no text or stops the reading of TOML in a way of its own. From a file that is
not read it loads what a store in the same environment loads that finds no file, with one warning more. -/
theorem init_loadsOrComplains (named : Option Path) (s : Store) :
    (LoadsOrComplains (init named s).1 ↔ ¬ Obstructed named s) ∧
    ∀ p cause bare, findFile s.tree named = .ok (some p) → Unread s.tree p cause →
      findFile bare.tree none = .ok none → bare.environment = s.environment →
      (init named s).1.map Loaded.held = (init none bare).1.map Loaded.held ∧
        (init named s).2.notices = s.notices ++ [unreadNotice p cause] ∧
        (init none bare).2.notices = bare.notices :=
  ⟨init_loadsOrComplains_iff named s, fun _ _ _ => init_of_unread⟩

/-- A directory at the first of the paths. -/
theorem init_loadsOrComplains_directory :
    let directory : Store := ⟨⟨"", ["cwd"], ["home"], [(["cwd", fileName], .directory)], [[]]⟩,
      [("NATPMPC_GATEWAY", "10.0.0.1")], none, []⟩
    let bare : Store := { directory with tree := ⟨"", ["cwd"], ["home"], [], [[]]⟩ }
    (init none directory).1.map Loaded.held = (init none bare).1.map Loaded.held ∧
      (init none directory).2.notices =
        [unreadNotice ⟨some "", ["cwd", fileName]⟩ "IsADirectoryError"] := by
  intro directory bare
  obtain ⟨-, unread⟩ := init_loadsOrComplains none directory
  obtain ⟨loads, writes, -⟩ := unread ⟨some "", ["cwd", fileName]⟩ "IsADirectoryError" bare
    (by rfl) (.directory (by rfl)) (by rfl) (by rfl)
  exact ⟨loads, writes⟩

/-- A byte outside of UTF-8 ends the loading in another way, though nothing else is wrong. -/
theorem undecodable_file_escapes :
    ¬ ∀ (named : Option Path) (s : Store), LoadsOrComplains (init named s).1 := by
  intro h
  let s : Store := ⟨⟨"", ["cwd"], ["home"], [(["cwd", fileName], .file [0xff])], [[]]⟩, [], none, []⟩
  refine (init_loadsOrComplains_iff none s).mp (h none s) ?_
  exact .stopped (p := ⟨some "", ["cwd", fileName]⟩) (by rfl) (.undecodable (by rfl) (by rfl))

end Store

end PortMap.Settings
