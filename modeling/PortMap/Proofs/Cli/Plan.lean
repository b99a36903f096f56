import Mathlib.Tactic.FinCases
import Mathlib.Tactic.NormNum
import PortMap.Cli.Program
import PortMap.Proofs.Settings.Bounds

/-!
# What a command line comes to

A command is carried out exactly if every reader before it was content: that of the options, that of the
settings with the options over them, that of the log and that of the words after the command
(`plan_eq_carryOut_iff`). Nothing has happened on the network by then, and nothing happens if the command
line comes to nothing more (`world_of_finished`).

## What is proved

* `accepted_settings_within_bounds` — **whatever settings are accepted are within bounds**, be they read
  from a value of any kind, or loaded for a command that is carried out, from any files, any environment
  and any words of a command line.
-/

namespace PortMap.Cli

open Settings (Store Loaded)

variable {words : List String} {s : Surroundings} {o : Order} {settings : Settings} {start : Report}

/-! ### Plans -/

theorem planCommand_eq_carryOut_iff {c : Command} {after : Settings} {before : Report} :
    planCommand c words after before = .carryOut o settings start ↔
      Order.ofWords c words = .ok (.proceed o) ∧ after = settings ∧ before = start := by
  unfold planCommand
  split
  · simp [*]
  · simp [*]
  · simp [*]

theorem planWithOptions_eq_carryOut_iff {options : Options} {c : Command} :
    planWithOptions options c words s = .ok (.carryOut o settings start) ↔
      ∃ l store, Store.init (options.config.bind Settings.namedPath?)
          { tree := s.tree, environment := s.environment } = (.ok l, store) ∧
        options.laidOver l.held.checked = .ok settings ∧
        (∃ file, Log.openFile s.tree settings.observability = .ok file) ∧
        Order.ofWords c words = .ok (.proceed o) ∧
        start = { world := s.world, notices := store.notices,
                  level := some settings.observability.logLevel } := by
  unfold planWithOptions
  dsimp only
  rcases Store.init (options.config.bind Settings.namedPath?)
    { tree := s.tree, environment := s.environment } with ⟨fault | l, store⟩
  · refine iff_of_false ?_ ?_
    · dsimp only
      split <;> nofun
    · rintro ⟨l, after, loads, -⟩
      cases loads
  · dsimp only
    cases laid : options.laidOver l.held.checked with
    | error issues =>
      refine iff_of_false nofun ?_
      rintro ⟨l', after, loads, above, -⟩
      cases loads
      cases laid.symm.trans above
    | ok after =>
      dsimp only
      cases log : Log.openFile s.tree after.observability with
      | error fault =>
        refine iff_of_false nofun ?_
        rintro ⟨l', store', loads, above, ⟨file, opens⟩, -⟩
        cases loads
        cases laid.symm.trans above
        cases log.symm.trans opens
      | ok file =>
        rw [Except.ok.injEq, planCommand_eq_carryOut_iff]
        constructor
        · rintro ⟨reads, rfl, rfl⟩
          exact ⟨l, store, rfl, laid, ⟨file, log⟩, reads, rfl⟩
        · rintro ⟨l', store', loads, above, -, reads, rfl⟩
          cases loads
          cases laid.symm.trans above
          exact ⟨reads, rfl, rfl⟩

theorem Misuse.plan_ne_carryOut (m : Misuse) (before : Report) :
    m.plan before ≠ .ok (.carryOut o settings start) := by
  unfold Misuse.plan
  split <;> nofun

/-- **A command is carried out** exactly if every reader was content. -/
theorem plan_eq_carryOut_iff :
    plan words s = .ok (.carryOut o settings start) ↔
      words ≠ [] ∧ ∃ options rest c arguments,
        Options.ofWords s.tree words = .ok (.proceed (options, rest)) ∧
        findCommand s.tree rest = .ok (.proceed (c, arguments)) ∧
        planWithOptions options c arguments s = .ok (.carryOut o settings start) := by
  unfold plan
  dsimp only
  split
  · rename_i empty
    exact iff_of_false nofun fun h => h.1 (List.isEmpty_iff.mp empty)
  rename_i notEmpty
  rw [List.isEmpty_iff] at notEmpty
  cases read : Options.ofWords s.tree words with
  | error m =>
    refine iff_of_false (m.plan_ne_carryOut _) ?_
    rintro ⟨-, _, _, _, _, reads, -⟩
    cases reads
  | ok demand =>
    cases demand with
    | help =>
      refine iff_of_false nofun ?_
      rintro ⟨-, _, _, _, _, reads, -⟩
      cases reads
    | proceed found =>
      obtain ⟨options, rest⟩ := found
      dsimp only
      cases command : findCommand s.tree rest with
      | error m =>
        refine iff_of_false (m.plan_ne_carryOut _) ?_
        rintro ⟨-, _, _, _, _, reads, finds, -⟩
        cases reads
        cases command.symm.trans finds
      | ok demand =>
        cases demand with
        | help =>
          refine iff_of_false nofun ?_
          rintro ⟨-, _, _, _, _, reads, finds, -⟩
          cases reads
          cases command.symm.trans finds
        | proceed found =>
          obtain ⟨c, arguments⟩ := found
          dsimp only
          constructor
          · intro planned
            exact ⟨notEmpty, options, rest, c, arguments, rfl, command, planned⟩
          · rintro ⟨-, _, _, _, _, reads, finds, planned⟩
            cases reads
            cases command.symm.trans finds
            exact planned

/-! ### The network -/

/-- The network when a command line has come to something. -/
def Plan.world : Plan → Net.World
  | .finished r => r.world
  | .carryOut _ _ start => start.world

theorem Misuse.world_plan {m : Misuse} {before : Report} {p : Plan} (h : m.plan before = .ok p) :
    p.world = before.world := by
  unfold Misuse.plan at h
  split at h
  · cases h
  · cases h
    rfl

theorem world_planWithOptions {options : Options} {c : Command} {p : Plan}
    (h : planWithOptions options c words s = .ok p) : p.world = s.world := by
  unfold planWithOptions at h
  dsimp only at h
  split at h
  · split at h <;> cases h
    rfl
  · split at h
    · cases h
      rfl
    · split at h
      · cases h
      · cases h
        unfold planCommand
        split <;> rfl

/-- **Whatever a command line comes to, nothing has happened on the network.** -/
theorem world_plan {p : Plan} (h : plan words s = .ok p) : p.world = s.world := by
  unfold plan at h
  dsimp only at h
  split at h
  · cases h
    rfl
  · split at h
    · exact Misuse.world_plan h
    · cases h
      rfl
    · split at h
      · exact Misuse.world_plan h
      · cases h
        rfl
      · exact world_planWithOptions h

theorem Misuse.plan_ne_session (m : Misuse) (before : Report) (e : Session.Fault) :
    m.plan before ≠ .error (.session e) := by
  unfold Misuse.plan
  split <;> nofun

/-- Up to there no session has failed. -/
theorem plan_ne_session (e : Session.Fault) : plan words s ≠ .error (.session e) := by
  unfold plan
  dsimp only
  split
  · nofun
  · split
    · exact Misuse.plan_ne_session _ _ e
    · nofun
    · split
      · exact Misuse.plan_ne_session _ _ e
      · nofun
      · unfold planWithOptions
        dsimp only
        split
        · split <;> nofun
        · split
          · nofun
          · split <;> nofun

/-! ### Settings -/

/-- What a store has loaded comes from some table and its environment. -/
theorem exists_ofSources_of_init {named : Option Disk.Path} {st st' : Store} {l : Loaded}
    (h : st.init named = (.ok l, st')) :
    ∃ file, Settings.ofSources file st.environment = .ok l.held.checked := by
  unfold Store.init at h
  split at h
  · cases h
  · split at h
    · cases h
    · rename_i found _ loaded notices loads
      cases h
      unfold Settings.load at loads
      split at loads
      · exact ⟨[], congrArg Prod.fst loads⟩
      · split at loads
        · cases loads
        · exact ⟨_, congrArg Prod.fst loads⟩

/-- Options that are accepted keep the settings within bounds. -/
theorem withinBounds_of_laidOver {options : Options} {before : Settings}
    (within : before.client.WithinBounds) (h : options.laidOver before = .ok settings) :
    settings.client.WithinBounds := by
  unfold Options.laidOver at h
  split at h
  · cases h
  · rename_i client above
    cases h
    unfold Options.overClient at above
    split at above
    · exact Except.ok.inj above ▸ within
    · exact Settings.Client.withinBounds_of_ofTable above

/-- Options that give settings within bounds are accepted. -/
theorem laidOver_of_withinBounds {options : Options} {before : Settings} {client : Settings.Client}
    (within : client.WithinBounds)
    (table : Table.overlay before.client.toTable options.clientTable = client.toTable)
    (some_ : options.clientTable.isEmpty = false) (quiet : options.verbose = 0) :
    options.laidOver before = .ok ⟨client, before.observability⟩ := by
  have above : options.overClient before.client = .ok client := by
    rw [Options.overClient, some_, if_neg Bool.false_ne_true, table,
      Settings.Client.withinBounds_iff.mp within]
  rw [Options.laidOver, above, quiet]
  rfl

/-- A command is carried out with settings within bounds. -/
theorem withinBounds_of_plan (h : plan words s = .ok (.carryOut o settings start)) :
    settings.client.WithinBounds := by
  obtain ⟨-, options, rest, c, arguments, -, -, planned⟩ := plan_eq_carryOut_iff.mp h
  obtain ⟨l, store, loads, above, -⟩ := planWithOptions_eq_carryOut_iff.mp planned
  obtain ⟨file, loads⟩ := exists_ofSources_of_init loads
  exact withinBounds_of_laidOver (Settings.withinBounds_of_ofSources loads) above

/-- **Whatever settings of the client are accepted are within bounds**: those read from a value of any kind,
of which the gateway, if it is there, is the text of an address; and those with which a command is carried
out, whatever the words, the files and the environment. No other run does anything on the network. -/
theorem accepted_settings_within_bounds :
    (∀ (v : Value) (c : Settings.Client), Settings.Client.read v = .ok c →
      c.WithinBounds ∧ ∀ t g, v.table? = some t → t.get? "gateway" = some g →
        g = (c.gateway.map fun a => Value.text a.text).getD .null) ∧
    (∀ (words : List String) (s : Surroundings) (o : Order) (settings : Settings) (start : Report),
      plan words s = .ok (.carryOut o settings start) → settings.client.WithinBounds) ∧
    (∀ (words : List String) (s : Surroundings) (r : Report), run words s = .ok r → r.world ≠ s.world →
      ∃ o settings start, plan words s = .ok (.carryOut o settings start)) := by
  refine ⟨fun v c reads => ?_, fun words s o settings start planned => ?_, fun words s r runs acts => ?_⟩
  · unfold Settings.Client.read Settings.readTable at reads
    split at reads
    · rename_i t isTable
      refine ⟨Settings.Client.withinBounds_of_ofTable reads, fun t' g same there => ?_⟩
      cases isTable.symm.trans same
      exact Settings.Client.gateway_of_ofTable reads there
    · cases reads
  · exact withinBounds_of_plan planned
  · unfold run at runs
    split at runs
    · cases runs
    · rename_i finished
      cases runs
      exact absurd (world_plan finished) acts
    · exact ⟨_, _, _, by assumption⟩

/-- The texts of a table at the upper limits, and a command line with a gateway and the fewest attempts. -/
theorem accepted_settings_within_bounds_both :
    let v : Value := .table [("gateway", .text "10.0.0.1"), ("timeout", .whole 60),
      ("max_attempts", .text " +64.0 "), ("mapping_lifetime", .text "4294967295")]
    let c : Settings.Client :=
      { gateway := some ⟨10, 0, 0, 1⟩, timeout := .ofInt 60, maxAttempts := 64,
        mappingLifetime := 4294967295 }
    let words := ["--gateway", "10.0.0.1", "--attempts", "1", "gateway"]
    let s : Surroundings := { tree := ⟨"", ["cwd"], ["home"], [], [[]]⟩ }
    (Settings.Client.read v = .ok c ∧ c.WithinBounds) ∧
      ∃ settings start, plan words s = .ok (.carryOut .gateway settings start) ∧
        settings.client = { gateway := some ⟨10, 0, 0, 1⟩, maxAttempts := 1 } ∧
        settings.client.WithinBounds := by
  intro v c words s
  obtain ⟨ofValues, ofPlans, -⟩ := accepted_settings_within_bounds
  refine ⟨?_, ?_⟩
  · have reads : Settings.Client.read v = .ok c := by
      have ofTable (t : Table) : Settings.Client.read (.table t) = Settings.Client.ofTable t := rfl
      rw [ofTable, Settings.Client.ofTable_eq_ok_iff]
      intro f hf
      fin_cases hf
      · change Settings.readGateway (.text "10.0.0.1") = .ok (some ⟨10, 0, 0, 1⟩)
        exact Settings.readGateway_eq_ok_iff.mpr rfl
      · have there : Table.get? [("gateway", .text "10.0.0.1"), ("timeout", .whole 60),
            ("max_attempts", .text " +64.0 "), ("mapping_lifetime", .text "4294967295")]
            Settings.Field.timeout.name = some (.whole 60) := rfl
        rw [there, Settings.Field.validate, Option.elim_some, Settings.Field.read]
        refine (Settings.readRealWithin_eq_ok_iff (by decide) (by decide)).mpr ⟨?_, 60, ?_, ?_⟩
        · rw [Settings.readReal, Binary64.ofInt?_eq_some (by decide)]
          rfl
        · exact Binary64.rational?_ofInt (n := 60) (by decide)
        · norm_num [Settings.Limits.Admits, Settings.timeoutLimits]
      · change Settings.readWholeWithin Settings.attemptLimits (.text " +64.0 ") = .ok 64
        rfl
      · rfl
      · rfl
      · rfl
      · change Settings.readWholeWithin Settings.lifetimeLimits (.text "4294967295") = .ok 4294967295
        rfl
    exact ⟨reads, (ofValues v c reads).1⟩
  · let client : Settings.Client := { gateway := some ⟨10, 0, 0, 1⟩, maxAttempts := 1 }
    have planned : plan words s = .ok (.carryOut .gateway ⟨client, {}⟩
        { world := s.world, level := some .warning }) := by
      -- Words are split by recursion on their number, which `rfl` alone does not open.
      refine plan_eq_carryOut_iff.mpr ⟨by decide, { gateway := some "10.0.0.1", attempts := some 1 },
        ["gateway"], .gateway, [], by with_unfolding_all rfl, rfl, planWithOptions_eq_carryOut_iff.mpr ?_⟩
      refine ⟨⟨none, ⟨{}, []⟩⟩, _, rfl, ?_, ⟨_, rfl⟩, by with_unfolding_all rfl, ?_⟩
      · refine laidOver_of_withinBounds ?_ rfl rfl rfl
        exact { Settings.Client.withinBounds_default with
          maxAttempts := by decide
          gateway := fun a _ => Address.ofValue_text a }
      · rfl
    exact ⟨_, _, planned, rfl, ofPlans _ _ _ _ _ planned⟩

end PortMap.Cli
