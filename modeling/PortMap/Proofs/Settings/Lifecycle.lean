import PortMap.Proofs.Settings.Precedence

/-!
# The life of a store of settings

A store is asked for its settings, made to load them, to load them again, or to take others, in any order, and
between two of these operations the files and the environment may change in any way (`Event`). This module
tells what the store holds after any run of such events.

## The argument

Each operation is looked at once: what fails changes nothing that is loaded (`perform_error`), and what
succeeds is what the store holds from then on (`perform_ok`). `latest` looks through a run for the last event
that shows something; the last operation that gave the store its settings is one use of it, the last one
that made the store load for the first time or anew is the other. An induction on the events carries both
over a run (`loaded_afterAll`, `file_afterAll`).

## What is proved

* `load_eq` — loading gives what the table of the file and the environment say, and nothing else.
* `reload_reloads` — how loading again ends; `reload_complains_iff` and `reload_stops_iff` tell when it fails.
* `lifecycle` — **what holds after every run of events**: failures change nothing, loading again depends on
  the file of the last creation and on the present files and environment alone, asking reads nothing once
  something is loaded.
* `undecodable_file_escapes_reload` — a file with a byte outside of UTF-8 makes loading again fail in another
  way than with a complaint about the configuration.
-/

namespace PortMap.Settings

open Disk

/-! ### Loading -/

/-- **Loading depends on the table of the file and on the environment alone.** -/
theorem load_eq (t : Tree) (e : Environment) (file : Option Path) :
    (load t e file).1 = (contribution t file).bind fun table => ofSources table e := by
  cases file with
  | none => rfl
  | some p =>
    simp only [load, contribution]
    rcases readFile t p with ⟨_ | _, notices⟩ <;> rfl

/-- A file that is not there any more counts as an empty one. -/
theorem contribution_of_vanished {t : Tree} {p : Path} (vanished : t.get? p = none) :
    contribution t (some p) = .ok [] := by
  rw [contribution, readFile, vanished]

/-- What a file contributes depends on what stands at its path alone. -/
theorem contribution_congr {t t' : Tree} {p : Path} (same : t'.get? p = t.get? p) :
    contribution t' (some p) = contribution t (some p) := by
  simp only [contribution, readFile, same]

/-- Loading stops where the file stops it. -/
theorem contribution_eq_error_iff {t : Tree} {file : Option Path} {fault : Fault} :
    contribution t file = .error fault ↔ ∃ p, file = some p ∧ Stops t p fault := by
  cases file with
  | none => exact ⟨nofun, nofun⟩
  | some p =>
    rw [contribution]
    constructor
    · intro failed
      rcases readFile_cases t p with ⟨table, read⟩ | ⟨cause, unread⟩ | ⟨fault', stops⟩
      · rw [read] at failed
        cases failed
      · rw [readFile_eq_of_unread unread] at failed
        cases failed
      · rw [readFile_eq_of_stops stops] at failed
        cases failed
        exact ⟨p, rfl, stops⟩
    · rintro ⟨_, same, stops⟩
      cases same
      rw [readFile_eq_of_stops stops]

/-! ### Events -/

/-- What a store is asked to do. -/
inductive Operation where
  /-- To give its settings. -/
  | get
  /-- To load settings, from the file that is named or from one that is found. -/
  | init (named : Option Path)
  /-- To load the settings again. -/
  | reload
  /-- To take other settings. -/
  | replace (settings : Settings)

/-- Whether a store is made to load from a file that is named or found. -/
def Operation.isInit : Operation → Bool
  | .init _ => true
  | _ => false

/-- Whether a store is just asked for its settings. -/
def Operation.isGet : Operation → Bool
  | .get => true
  | _ => false

/-- What happens to a store. -/
inductive Event where
  /-- It is asked to do something. -/
  | asked (o : Operation)
  /-- The files and the environment change. -/
  | changed (t : Tree) (e : Environment)

namespace Store

variable {s : Store} {o : Operation} {l : Loaded} {fault : Fault}

/-- Does what a store is asked to do. -/
def perform (o : Operation) (s : Store) : Except Fault Loaded × Store :=
  match o with
  | .get => s.get
  | .init named => s.init named
  | .reload => s.reload
  | .replace settings => s.replace settings

/-- The store after an event. -/
def after (s : Store) : Event → Store
  | .asked o => (s.perform o).2
  | .changed t e => { s with tree := t, environment := e }

/-- The store after events. -/
def afterAll (s : Store) (events : List Event) : Store := events.foldl after s

/-! ### Single operations -/

/-- Once something is loaded it is given, and nothing is read. -/
theorem get_of_loaded (h : s.loaded = some l) : s.get = (.ok l, s) := by rw [get, h]

theorem get_of_unloaded (h : s.loaded = none) : s.get = s.init none := by rw [get, h]

theorem replace_of_loaded (h : s.loaded = some l) (settings : Settings) :
    s.replace settings =
      (.ok ⟨l.file, ⟨settings, []⟩⟩, { s with loaded := some ⟨l.file, ⟨settings, []⟩⟩ }) := by
  rw [replace, update, get_of_loaded h]

/-- An operation ends with a fault and leaves what is loaded, or with what is loaded from then on. -/
def Settled (s : Store) (r : Except Fault Loaded × Store) : Prop :=
  (∃ fault, r.1 = .error fault ∧ r.2.loaded = s.loaded) ∨ ∃ l, r.1 = .ok l ∧ r.2.loaded = some l

theorem init_settled (named : Option Path) (s : Store) : Settled s (s.init named) := by
  unfold init
  cases findFile s.tree named with
  | error fault => exact .inl ⟨fault, rfl, rfl⟩
  | ok file =>
    simp only
    rcases load s.tree s.environment file with ⟨fault | settings, notices⟩
    · exact .inl ⟨fault, rfl, rfl⟩
    · exact .inr ⟨_, rfl, rfl⟩

/-- A store that is asked for settings, or given others, before it has loaded any, loads them first, as if it
were made to without the name of a file. -/
theorem perform_of_unloaded (h : s.loaded = none) (asks : o = .get ∨ ∃ settings, o = .replace settings) :
    s.perform o = match s.perform (.init none) with
      | (.error fault, u) => (.error fault, u)
      | (.ok _, u) => u.perform o := by
  have settled := init_settled none s
  simp only [perform]
  rcases made : s.init none with ⟨fault | l, u⟩ <;> rw [made] at settled
  · rcases asks with rfl | ⟨settings, rfl⟩
    · exact (get_of_unloaded h).trans made
    · simp only [replace, update, get_of_unloaded h, made]
  · obtain ⟨_, fails, -⟩ | ⟨_, loads, loaded⟩ := settled
    · cases fails
    · cases loads
      rcases asks with rfl | ⟨settings, rfl⟩
      · exact (get_of_unloaded h).trans (made.trans (get_of_loaded loaded).symm)
      · simp only [replace, update, get_of_unloaded h, made, get_of_loaded loaded]

/-- **What fails changes nothing that is loaded, and what succeeds is what is loaded from then on.** -/
theorem perform_settled (o : Operation) (s : Store) : Settled s (s.perform o) := by
  cases o with
  | get =>
    cases h : s.loaded with
    | none =>
      rw [perform, get_of_unloaded h]
      exact init_settled none s
    | some l =>
      rw [perform, get_of_loaded h]
      exact .inr ⟨l, rfl, h⟩
  | init named => exact init_settled named s
  | reload =>
    rw [perform, reload]
    cases h : s.loaded with
    | none => exact .inl ⟨_, rfl, rfl⟩
    | some l =>
      simp only
      rcases load s.tree s.environment l.file with ⟨fault | settings, notices⟩
      · exact .inl ⟨fault, rfl, h.symm⟩
      · exact .inr ⟨_, rfl, rfl⟩
  | replace settings =>
    cases h : s.loaded with
    | none =>
      have settled := init_settled none s
      rw [perform_of_unloaded h (.inr ⟨settings, rfl⟩)]
      simp only [perform]
      rcases made : s.init none with ⟨fault | l, u⟩ <;> rw [made] at settled
      · exact settled
      · obtain ⟨_, fails, -⟩ | ⟨_, loads, loaded⟩ := settled
        · cases fails
        · replace loaded : u.loaded = some _ := loaded
          simp only [replace_of_loaded loaded]
          exact .inr ⟨_, rfl, rfl⟩
    | some l =>
      rw [perform, replace_of_loaded h]
      exact .inr ⟨_, rfl, rfl⟩

theorem loaded_of_error (h : (s.perform o).1 = .error fault) : (s.perform o).2.loaded = s.loaded := by
  obtain ⟨_, -, kept⟩ | ⟨_, loads, -⟩ := perform_settled o s
  · exact kept
  · rw [h] at loads
    cases loads

theorem loaded_of_ok (h : (s.perform o).1 = .ok l) : (s.perform o).2.loaded = some l := by
  obtain ⟨_, fails, -⟩ | ⟨l', loads, loaded⟩ := perform_settled o s
  · rw [h] at fails
    cases fails
  · rw [h] at loads
    cases loads
    exact loaded

/-- Loading again reads the file that is known. -/
theorem reload_eq (h : s.loaded = some l) :
    s.reload.1 = ((contribution s.tree l.file).bind fun table => ofSources table s.environment).map
      fun settings => ⟨l.file, ⟨settings, []⟩⟩ := by
  rw [← load_eq, reload, h]
  simp only
  rcases load s.tree s.environment l.file with ⟨_ | _, notices⟩ <;> rfl

theorem reload_of_unloaded (h : s.loaded = none) : s.reload.1 = .error .notLoaded := by rw [reload, h]

/-- How loading again ends, once something is loaded. -/
inductive Reloads (s : Store) (l : Loaded) : Except Fault Loaded → Prop
  /-- What stands at the file stops it. -/
  | stopped {p : Path} {fault : Fault} : l.file = some p → Stops s.tree p fault → Reloads s l (.error fault)
  /-- The settings have issues. -/
  | invalid {table : Table} {fault : Fault} : contribution s.tree l.file = .ok table →
      ofSources table s.environment = .error fault → Reloads s l (.error fault)
  /-- The settings are those of the table of the file and the environment. -/
  | made {table : Table} {settings : Settings} : contribution s.tree l.file = .ok table →
      ofSources table s.environment = .ok settings → Reloads s l (.ok ⟨l.file, ⟨settings, []⟩⟩)

theorem reload_reloads (h : s.loaded = some l) : Reloads s l s.reload.1 := by
  rw [reload_eq h]
  cases contributes : contribution s.tree l.file with
  | error fault =>
    obtain ⟨p, file, stops⟩ := contribution_eq_error_iff.mp contributes
    exact .stopped file stops
  | ok table =>
    rw [Except.bind]
    cases loads : ofSources table s.environment with
    | error fault => exact .invalid contributes loads
    | ok settings => exact .made contributes loads

/-- Loading again ends with a complaint about the configuration if nothing is loaded, or if the settings that
the table of the file and the environment make have issues. -/
theorem reload_complains_iff (s : Store) :
    (∃ fault, s.reload.1 = .error fault ∧ fault.IsComplaint) ↔
      s.loaded = none ∨ ∃ l table fault, s.loaded = some l ∧ contribution s.tree l.file = .ok table ∧
        ofSources table s.environment = .error fault := by
  constructor
  · rintro ⟨fault, fails, complaint⟩
    cases h : s.loaded with
    | none => exact .inl rfl
    | some l =>
      have ending := reload_reloads h
      rw [fails] at ending
      cases ending with
      | stopped file stops => exact absurd complaint stops.not_isComplaint
      | invalid contributes invalid => exact .inr ⟨l, _, fault, rfl, contributes, invalid⟩
  · rintro (unloaded | ⟨l, table, fault, h, contributes, invalid⟩)
    · exact ⟨_, reload_of_unloaded unloaded, _, rfl, rfl⟩
    · refine ⟨fault, ?_, loadsOrComplains_error_iff.mp (invalid ▸ ofSources_loadsOrComplains table _)⟩
      rw [reload_eq h, contributes, Except.bind, invalid]
      rfl

/-- It ends with another fault if the file stops it. -/
theorem reload_stops_iff (s : Store) (fault : Fault) :
    s.reload.1 = .error fault ∧ ¬ fault.IsComplaint ↔
      ∃ l p, s.loaded = some l ∧ l.file = some p ∧ Stops s.tree p fault := by
  constructor
  · rintro ⟨fails, other⟩
    cases h : s.loaded with
    | none =>
      cases (reload_of_unloaded h).symm.trans fails
      exact absurd ⟨_, rfl, rfl⟩ other
    | some l =>
      have ending := reload_reloads h
      rw [fails] at ending
      cases ending with
      | stopped file stops => exact ⟨l, _, rfl, file, stops⟩
      | invalid contributes invalid =>
        exact absurd (loadsOrComplains_error_iff.mp (invalid ▸ ofSources_loadsOrComplains _ _)) other
  · rintro ⟨l, p, h, file, stops⟩
    refine ⟨?_, stops.not_isComplaint⟩
    rw [reload_eq h, contribution_eq_error_iff.mpr ⟨p, file, stops⟩]
    rfl

/-- What a store takes is what it holds then. -/
theorem held_of_replace {settings : Settings} (h : (s.perform (.replace settings)).1 = .ok l) :
    l.held = ⟨settings, []⟩ := by
  rw [perform, replace, update] at h
  revert h
  rcases s.get with ⟨fault | l', u⟩
  · exact nofun
  · rintro ⟨⟩
    rfl

/-- A store with something loaded keeps its file, unless it is made to load from another one. -/
theorem file_of_ok {l' : Loaded} (loaded : s.loaded = some l) (other : o.isInit = false)
    (h : (s.perform o).1 = .ok l') : l'.file = l.file := by
  cases o with
  | get =>
    rw [perform, get_of_loaded loaded] at h
    cases h
    rfl
  | init named => cases other
  | reload =>
    have ending := reload_reloads loaded
    rw [perform] at h
    rw [h] at ending
    cases ending with
    | made => rfl
  | replace settings =>
    rw [perform, replace_of_loaded loaded] at h
    cases h
    rfl

/-! ### Runs -/

/-- What an event gives a store for its settings; asking for settings that are loaded gives it none. -/
def given (s : Store) : Event → Option Loaded
  | .asked o => if o.isGet ∧ s.loaded.isSome then none else (s.perform o).1.toOption
  | .changed .. => none

/-- The file with which an event makes a store start anew; a store that has loaded nothing starts with
whatever it is asked for. -/
def begun (s : Store) : Event → Option (Option Path)
  | .asked o => if o.isInit ∨ s.loaded.isNone then (s.perform o).1.toOption.map Loaded.file else none
  | .changed .. => none

/-- The last that the events of a run show. -/
def latest {α : Type} (shown : Store → Event → Option α) (s : Store) : List Event → Option α
  | [] => none
  | e :: rest => (latest shown (s.after e) rest).or (shown s e)

theorem loaded_after (s : Store) (e : Event) : (s.after e).loaded = (s.given e).or s.loaded := by
  cases e with
  | changed t e => rfl
  | asked o =>
    rw [after, given]
    split_ifs with known
    · obtain ⟨isGet, loaded⟩ := known
      obtain ⟨l, loaded⟩ := Option.isSome_iff_exists.mp loaded
      cases o with
      | get => rw [perform, get_of_loaded loaded]; rfl
      | _ => cases isGet
    · cases h : (s.perform o).1 with
      | error fault => rw [loaded_of_error h]; rfl
      | ok l => rw [loaded_of_ok h]; rfl

theorem file_after (s : Store) (e : Event) :
    (s.after e).loaded.map Loaded.file = (s.begun e).or (s.loaded.map Loaded.file) := by
  cases e with
  | changed t e => rfl
  | asked o =>
    rw [after, begun]
    cases h : (s.perform o).1 with
    | error fault =>
      rw [loaded_of_error h]
      split_ifs <;> rfl
    | ok l =>
      rw [loaded_of_ok h]
      split_ifs with anew
      · rfl
      · rw [not_or, Bool.not_eq_true, Option.isNone_iff_eq_none, ← ne_eq, Option.ne_none_iff_exists'] at anew
        obtain ⟨other, l', loaded⟩ := anew
        rw [loaded, Option.map_some, Option.map_some, file_of_ok loaded other h]
        rfl

/-- **A store holds what the last event gave it.** -/
theorem loaded_afterAll (s : Store) (events : List Event) :
    (s.afterAll events).loaded = (s.latest given events).or s.loaded := by
  induction events generalizing s with
  | nil => rfl
  | cons e rest ih =>
    rw [latest, Option.or_assoc, ← loaded_after]
    exact ih (s.after e)

/-- **A store has the file with which it started last.** -/
theorem file_afterAll (s : Store) (events : List Event) :
    (s.afterAll events).loaded.map Loaded.file = (s.latest begun events).or (s.loaded.map Loaded.file) := by
  induction events generalizing s with
  | nil => rfl
  | cons e rest ih =>
    rw [latest, Option.or_assoc, ← file_after]
    exact ih (s.after e)

/-- What a store that began as `start` does after a run of events. -/
structure Lifecycle (start : Store) (events : List Event) (s : Store) : Prop where
  /-- An operation that fails leaves what is loaded, and the file. -/
  atomic : ∀ o fault, (s.perform o).1 = .error fault → (s.perform o).2.loaded = s.loaded
  /-- Loading again complains about the configuration if nothing is loaded, or if the settings that the file
  and the environment make have issues. -/
  complains : (∃ fault, (s.perform .reload).1 = .error fault ∧ fault.IsComplaint) ↔
    s.loaded = none ∨ ∃ l table fault, s.loaded = some l ∧ contribution s.tree l.file = .ok table ∧
      ofSources table s.environment = .error fault
  /-- It fails in another way if the file stops it. -/
  stops : ∀ fault, (s.perform .reload).1 = .error fault ∧ ¬ fault.IsComplaint ↔
    ∃ l p, s.loaded = some l ∧ l.file = some p ∧ Stops s.tree p fault
  /-- If it succeeds, what is loaded from then on is made of what stands now at the file with which the store
  started last and of the present environment, … -/
  reloads : ∀ l, (s.perform .reload).1 = .ok l → (s.perform .reload).2.loaded = some l ∧
    some l.file = (start.latest begun events).or (start.loaded.map Loaded.file) ∧
    ∃ table settings, contribution s.tree l.file = .ok table ∧
      ofSources table s.environment = .ok settings ∧ l.held = ⟨settings, []⟩
  /-- … where nothing but what stands at its path matters of the files, … -/
  present : ∀ t p, t.get? p = s.tree.get? p → contribution t (some p) = contribution s.tree (some p)
  /-- … and a file that is not there any more counts as an empty one. -/
  vanished : ∀ p, s.tree.get? p = none → contribution s.tree (some p) = .ok []
  /-- Settings that are taken are held as they are. -/
  replaces : ∀ settings l, (s.perform (.replace settings)).1 = .ok l → l.held = ⟨settings, []⟩
  /-- Once something is loaded it is given, whatever the files and the environment, and nothing is read. -/
  gives : ∀ l, s.loaded = some l → s.perform .get = (.ok l, s)
  /-- It is what the last operation gave the store that succeeded. -/
  holds : s.loaded = (start.latest given events).or start.loaded
  /-- Before anything is loaded, to be asked for settings or to take others means to load some first. -/
  begins : ∀ o, s.loaded = none → (o = .get ∨ ∃ settings, o = .replace settings) →
    s.perform o = match s.perform (.init none) with
      | (.error fault, u) => (.error fault, u)
      | (.ok _, u) => u.perform o

/-- **The life of a store of settings**: this holds after every run of operations, with any changes of the
files and the environment between them. -/
theorem lifecycle (start : Store) (events : List Event) :
    Lifecycle start events (start.afterAll events) := by
  generalize reached : start.afterAll events = s
  refine ⟨fun o fault => loaded_of_error, reload_complains_iff s, reload_stops_iff s, fun l loads => ?_,
    fun t p => contribution_congr, fun p => contribution_of_vanished,
    fun settings l => held_of_replace, fun l => get_of_loaded,
    reached ▸ loaded_afterAll start events, fun o => perform_of_unloaded⟩
  cases known : s.loaded with
  | none =>
    rw [perform, reload_of_unloaded known] at loads
    cases loads
  | some l' =>
    refine ⟨loaded_of_ok loads, ?_, ?_⟩
    · rw [file_of_ok known rfl loads, ← file_afterAll, reached, known]
      rfl
    · have ending := reload_reloads known
      rw [perform] at loads
      rw [loads] at ending
      cases ending with
      | made contributes made => exact ⟨_, _, contributes, made, rfl⟩

/-- A file with a byte outside of UTF-8 takes the place of the one that was loaded: loading again fails, and
not with a complaint about the configuration. -/
theorem undecodable_file_escapes_reload :
    ¬ ∀ (start : Store) (events : List Event),
      (∃ fault, ((start.afterAll events).perform .reload).1 = .error fault ∧ fault.IsComplaint) ↔
        (start.afterAll events).loaded = none ∨
          ∃ l fault, (start.afterAll events).loaded = some l ∧
            (load (start.afterAll events).tree (start.afterAll events).environment l.file).1 =
              .error fault := by
  intro h
  let file (d : List UInt8) : Tree := ⟨"", ["cwd"], ["home"], [(["cwd", fileName], .file d)], [[]]⟩
  let start : Store := ⟨file [], [], none, []⟩
  let s := start.afterAll [.asked (.init none), .changed (file [0xff]) []]
  have loaded : s.loaded.map Loaded.file = some (some ⟨some "", ["cwd", fileName]⟩) := by
    rfl
  obtain ⟨l, known, path⟩ := Option.map_eq_some_iff.mp loaded
  have stops : Stops s.tree ⟨some "", ["cwd", fileName]⟩ (.undecodable _) :=
    .undecodable (by rfl) (by rfl)
  obtain ⟨fails, other⟩ := (reload_stops_iff s _).mpr ⟨l, _, known, path, stops⟩
  obtain ⟨fault, fails', complaint⟩ := (h start [.asked (.init none), .changed (file [0xff]) []]).mpr
    (.inr ⟨l, _, known, by rw [path]; exact congrArg Prod.fst (load_eq_of_stops stops _)⟩)
  cases fails.symm.trans fails'
  exact other complaint

end Store

end PortMap.Settings
