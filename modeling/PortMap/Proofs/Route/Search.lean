import PortMap.Proofs.Text.Encoding
import PortMap.Session.Open

/-!
# How the search for the default gateway ends

The sources are tried in turn, and each of them names a gateway or does not. What a command names depends
on the host alone (`Discovery.named?`), and so does which commands are run (`Discovery.asked`); a search
leaves nothing but these commands and its notices (`Asks`).

## What is proved

* `run_eq_of_windows`, `run_eq_of_table`, `run_eq_of_silent`, `run_eq_of_undecodable` — how a search ends,
  by what its first source tells.
* `discover_findsOrComplains` — **when a search ends with an address or with the complaint that there is
  no gateway**, and that a file which names none only leads on to the next source.
* `foreign_table_escapes` — a byte outside of ASCII ends it in another way.
-/

namespace PortMap.Route

open Net

/-! ### What a search leaves -/

/-- Between two worlds, commands were run and notices were written, and nothing else was done. -/
def Asks (w u : World) : Prop :=
  ∃ (commands : List (List String)) (notices : List Log.Notice),
    u = { w with calls := w.calls ++ commands.map .run, notices := w.notices ++ notices }

namespace Asks

variable {w u v : World}

theorem refl (w : World) : Asks w w := ⟨[], [], by simp⟩

theorem trans (h : Asks w u) (h' : Asks u v) : Asks w v := by
  obtain ⟨commands, notices, rfl⟩ := h
  obtain ⟨commands', notices', rfl⟩ := h'
  exact ⟨commands ++ commands', notices ++ notices', by simp⟩

theorem run (w : World) (command : List String) : Asks w (w.call (.run command)) :=
  ⟨[command], [], by simp [World.call]⟩

theorem note (w : World) (n : Log.Notice) : Asks w (w.note n) := ⟨[], [n], by simp [World.note]⟩

end Asks

/-! ### The file of the kernel -/

/-- The file of the kernel names no gateway: it is not there, cannot be read, or is a text without one. -/
inductive TableFile.IsSilent : TableFile → Prop
  /-- It is not there. -/
  | absent : IsSilent .absent
  /-- It cannot be read. -/
  | unreadable (text : String) : IsSilent (.unreadable text)
  /-- It is a text that names no gateway. -/
  | without {d : List UInt8} {s : List Char} : Text.readAscii d = .ok s → KernelTable.gateway? s = none →
      IsSilent (.holding d)

/-- The file of the kernel has a byte outside of ASCII. -/
def TableFile.IsForeign : TableFile → Prop
  | .holding d => ∃ b ∈ d, ¬ b < 0x80
  | _ => False

theorem TableFile.isForeign_of_undecodable {d : List UInt8} {u : Text.Undecodable}
    (text : Text.readAscii d = .error u) : (TableFile.holding d).IsForeign :=
  (Text.exists_readAscii_eq_error_iff d).mp ⟨u, text⟩

theorem TableFile.not_isForeign_of_text {d : List UInt8} {s : List Char}
    (text : Text.readAscii d = .ok s) : ¬ (TableFile.holding d).IsForeign := fun foreign => by
  obtain ⟨u, hu⟩ := (Text.exists_readAscii_eq_error_iff d).mpr foreign
  rw [text] at hu
  cases hu

theorem TableFile.IsSilent.not_isForeign {t : TableFile} (h : t.IsSilent) : ¬ t.IsForeign := by
  cases h with
  | absent | unreadable => exact id
  | without text => exact not_isForeign_of_text text

/-- The file of the kernel is silent, or names a gateway, or is no text. -/
theorem TableFile.silent_or (t : TableFile) : t.IsSilent ∨
    (∃ d s a, t = .holding d ∧ Text.readAscii d = .ok s ∧ KernelTable.gateway? s = some a) ∨
    ∃ d u, t = .holding d ∧ Text.readAscii d = .error u := by
  cases t with
  | absent => exact .inl .absent
  | unreadable text => exact .inl (.unreadable text)
  | holding d =>
    cases text : Text.readAscii d with
    | error u => exact .inr (.inr ⟨d, u, rfl, text⟩)
    | ok s =>
      cases names : KernelTable.gateway? s with
      | none => exact .inl (.without text names)
      | some a => exact .inr (.inl ⟨d, s, a, rfl, text, names⟩)

namespace Discovery

/-! ### Commands -/

/-- The gateway that a command names. -/
def named? (host : Host) (read : List Char → Option Address) (command : List String) :
    Option Address :=
  (commandOutput? host command).bind fun output => read output.toList

theorem ask_fst (host : Host) (command : List String) (read : List Char → Option Address) (w : World) :
    (ask host command read w).1 = named? host read command := rfl

theorem ask_calls (host : Host) (command : List String) (read : List Char → Option Address)
    (w : World) : (ask host command read w).2.calls = w.calls ++ [.run command] := by
  unfold ask
  cases commandFault? host command <;> rfl

theorem ask_asks (host : Host) (command : List String) (read : List Char → Option Address) (w : World) :
    Asks w (ask host command read w).2 := by
  unfold ask
  cases commandFault? host command with
  | none => exact .run w command
  | some text => exact (Asks.run w command).trans (.note _ _)

/-- The commands that are run until one of them names a gateway. -/
def asked (host : Host) : List (List String) → List (List String)
  | [] => []
  | command :: rest =>
    command :: if (named? host CommandOutput.gateway? command).isSome then [] else asked host rest

theorem askAll_fst (host : Host) (commands : List (List String)) (w : World) :
    (askAll host commands w).1 = commands.findSome? (named? host CommandOutput.gateway?) := by
  induction commands generalizing w with
  | nil => rfl
  | cons command rest ih =>
    rw [askAll, List.findSome?_cons, ← ask_fst host command CommandOutput.gateway? w]
    rcases ask host command CommandOutput.gateway? w with ⟨_ | a, u⟩
    · exact ih u
    · rfl

theorem askAll_calls (host : Host) (commands : List (List String)) (w : World) :
    (askAll host commands w).2.calls = w.calls ++ (asked host commands).map .run := by
  induction commands generalizing w with
  | nil => exact (List.append_nil _).symm
  | cons command rest ih =>
    have calls := ask_calls host command CommandOutput.gateway? w
    rw [askAll, asked, ← ask_fst host command CommandOutput.gateway? w]
    rcases h : ask host command CommandOutput.gateway? w with ⟨_ | a, u⟩ <;> rw [h] at calls
    · exact (ih u).trans (by rw [calls, List.append_assoc]; rfl)
    · exact calls

theorem askAll_asks (host : Host) (commands : List (List String)) (w : World) :
    Asks w (askAll host commands w).2 := by
  induction commands generalizing w with
  | nil => exact .refl w
  | cons command rest ih =>
    have first := ask_asks host command CommandOutput.gateway? w
    rw [askAll]
    rcases h : ask host command CommandOutput.gateway? w with ⟨_ | a, u⟩ <;> rw [h] at first
    · exact first.trans (ih u)
    · exact first

/-! ### The search -/

/-- How a search ends for which the last source names a gateway or does not. -/
def answer (host : Host) : Option Address → Except Fault Address
  | some a => .ok a
  | none => .error (.notFound host.platform)

variable {host : Host}

theorem run_eq_of_windows (h : host.platform = "Windows") (w : World) :
    run host w = (answer host (named? host PrintedTable.gateway? printCommand),
      (ask host printCommand PrintedTable.gateway? w).2) := by
  rw [run, if_pos h, ← ask_fst host printCommand PrintedTable.gateway? w]
  rcases ask host printCommand PrintedTable.gateway? w with ⟨_ | a, u⟩ <;> rfl

/-- A file that is text and names a gateway ends the search. -/
theorem run_eq_of_table {d : List UInt8} {s : List Char} {a : Address} (h : host.platform ≠ "Windows")
    (table : host.table = .holding d) (text : Text.readAscii d = .ok s)
    (names : KernelTable.gateway? s = some a) (w : World) : run host w = (.ok a, w) := by
  rw [run, if_neg h, searchTableFirst, readTable, table]
  simp only [text, Except.map, names]

/-- A file that is no text ends the search. -/
theorem run_eq_of_undecodable {d : List UInt8} {u : Text.Undecodable} (h : host.platform ≠ "Windows")
    (table : host.table = .holding d) (text : Text.readAscii d = .error u) (w : World) :
    run host w = (.error (.undecodable u), w) := by
  rw [run, if_neg h, searchTableFirst, readTable, table]
  simp only [text, Except.map]

/-- A file without a gateway leads on to the commands. -/
theorem exists_run_eq_of_silent (h : host.platform ≠ "Windows") (silent : host.table.IsSilent) (w : World) :
    ∃ v, Asks w v ∧ v.calls = w.calls ∧
      run host w = (answer host (askAll host showCommands v).1, (askAll host showCommands v).2) := by
  -- the file may leave a notice; the commands are asked in the world with it
  have goesOn {v : World} (read : readTable host w = (.ok none, v)) :
      run host w = (answer host (askAll host showCommands v).1, (askAll host showCommands v).2) := by
    rw [run, if_neg h, searchTableFirst, read]
    dsimp only
    rcases askAll host showCommands v with ⟨_ | a, u⟩ <;> rfl
  cases table : host.table with
  | absent => exact ⟨w, .refl w, rfl, goesOn (by rw [readTable, table])⟩
  | unreadable text => exact ⟨_, .note w _, rfl, goesOn (by rw [readTable, table])⟩
  | holding d =>
    rw [table] at silent
    cases silent with
    | without text names =>
      refine ⟨w, .refl w, rfl, goesOn ?_⟩
      rw [readTable, table]
      simp only [text, Except.map, names]

/-- What a search comes to whose file names no gateway: the first of the commands that names one. -/
theorem run_of_silent (h : host.platform ≠ "Windows") (silent : host.table.IsSilent) (w : World) :
    (run host w).1 = answer host (showCommands.findSome? (named? host CommandOutput.gateway?)) ∧
      (run host w).2.calls = w.calls ++ (asked host showCommands).map .run := by
  obtain ⟨v, -, calls, ends⟩ := exists_run_eq_of_silent h silent w
  rw [ends, askAll_fst, askAll_calls, calls]
  exact ⟨rfl, rfl⟩

/-- A search leaves nothing but commands that were run and notices. -/
theorem run_asks (host : Host) (w : World) : Asks w (run host w).2 := by
  by_cases h : host.platform = "Windows"
  · rw [run_eq_of_windows h]
    exact ask_asks host printCommand PrintedTable.gateway? w
  · rcases host.table.silent_or with silent | ⟨d, s, a, table, text, names⟩ | ⟨d, u, table, text⟩
    · obtain ⟨v, asks, -, ends⟩ := exists_run_eq_of_silent h silent w
      rw [ends]
      exact asks.trans (askAll_asks host showCommands v)
    · rw [run_eq_of_table h table text names]
      exact .refl w
    · rw [run_eq_of_undecodable h table text]
      exact .refl w

end Discovery

end PortMap.Route

namespace PortMap.Session

open Net Route

/-! ### What a caller is told -/

/-- A search finds an address, or ends with the complaint that there is no gateway. -/
def FindsOrComplains (r : Except Fault Address) : Prop :=
  (∃ a, r = .ok a) ∨ ∃ e c, r = .error e ∧ e.complaint? = some c ∧ c.kind = .gatewayNotFound

theorem discover_eq (host : Host) (w : World) :
    discover host w = ((Discovery.run host w).1.mapError .discovery, (Discovery.run host w).2) := by
  unfold discover
  rcases Discovery.run host w with ⟨_ | _, u⟩ <;> rfl

theorem findsOrComplains_answer (host : Host) (found : Option Address) :
    FindsOrComplains ((Discovery.answer host found).mapError .discovery) := by
  cases found with
  | none => exact .inr ⟨_, _, rfl, rfl, rfl⟩
  | some a => exact .inl ⟨a, rfl⟩

/-- An ending without a complaint is none that a caller is told of. -/
theorem not_findsOrComplains_undecodable (u : Text.Undecodable) :
    ¬ FindsOrComplains (.error (.discovery (.undecodable u))) := by
  rintro (⟨a, ha⟩ | ⟨e, c, he, hc, -⟩)
  · cases ha
  · cases he
    cases hc

theorem findsOrComplains_iff (host : Host) (w : World) :
    FindsOrComplains (discover host w).1 ↔ ¬ (host.platform ≠ "Windows" ∧ host.table.IsForeign) := by
  by_cases h : host.platform = "Windows"
  · rw [discover_eq, Discovery.run_eq_of_windows h]
    exact iff_of_true (findsOrComplains_answer host _) fun foreign => foreign.1 h
  · rcases host.table.silent_or with silent | ⟨d, s, a, table, text, names⟩ | ⟨d, u, table, text⟩
    · rw [discover_eq, (Discovery.run_of_silent h silent w).1]
      exact iff_of_true (findsOrComplains_answer host _) fun foreign => silent.not_isForeign foreign.2
    · rw [discover_eq, Discovery.run_eq_of_table h table text names, table]
      exact iff_of_true (.inl ⟨a, rfl⟩) fun foreign => TableFile.not_isForeign_of_text text foreign.2
    · rw [discover_eq, Discovery.run_eq_of_undecodable h table text, table]
      exact iff_of_false (not_findsOrComplains_undecodable u)
        (not_not_intro ⟨h, TableFile.isForeign_of_undecodable text⟩)

/-- **How a search ends.** It finds an address or complains that there is no gateway, unless the file of the
kernel is a source and has a byte outside of ASCII. A file that is not there, cannot be read, or is a text
without a gateway only leads on to the next source: the answer and the commands are those of a search
without the file. -/
theorem discover_findsOrComplains (host : Host) (w : World) :
    (FindsOrComplains (discover host w).1 ↔
      ¬ (host.platform ≠ "Windows" ∧ host.table.IsForeign)) ∧
    (host.platform ≠ "Windows" → host.table.IsSilent →
      (discover host w).1 = (discover { host with table := .absent } w).1 ∧
      (discover host w).2.calls = (discover { host with table := .absent } w).2.calls) := by
  refine ⟨findsOrComplains_iff host w, fun h silent => ?_⟩
  obtain ⟨found, calls⟩ := Discovery.run_of_silent h silent w
  obtain ⟨found', calls'⟩ := @Discovery.run_of_silent { host with table := .absent } h .absent w
  simp only [discover_eq, found, calls, found', calls']
  exact ⟨rfl, rfl⟩

/-- A file of which no line can be read, before a command that names a gateway. -/
theorem discover_findsOrComplains_garbage :
    let host : Host := ⟨"Linux", .holding [0x00, 0x0a, 0x7f, 0x0a],
      [("ip", .ended 0 "default via 10.0.0.1 dev eth0")]⟩
    (discover host {}).1 = .ok ⟨10, 0, 0, 1⟩ ∧
      (discover host {}).2.calls = [.run ["ip", "-4", "route", "show", "default"]] := by
  intro host
  have silent : host.table.IsSilent := .without rfl (by decide)
  obtain ⟨found, calls⟩ := (discover_findsOrComplains host {}).2 (by decide) silent
  rw [found, calls]
  exact ⟨by rfl, by rfl⟩

/-- A byte outside of ASCII ends the search in another way, whatever the other sources tell. -/
theorem foreign_table_escapes : ¬ ∀ (host : Host) (w : World), FindsOrComplains (discover host w).1 := by
  intro h
  have found := h ⟨"Linux", .holding [0xff], [("ip", .ended 0 "default via 10.0.0.1 dev eth0")]⟩ {}
  rw [findsOrComplains_iff] at found
  exact found ⟨by decide, 0xff, List.mem_singleton_self _, by decide⟩

end PortMap.Session
