import PortMap.Proofs.Route.Search
import PortMap.Session.Thread

/-!
# The order of the sources

On Windows there is one source of the default gateway, the printed routing table. Elsewhere there are three: the
file of the kernel, the command `ip` and the command `route`, in this order (`sources`). What it means that a
source names a gateway is said of the file and of what comes of the commands, without any search
(`Source.Names`).

## What is proved

* `Source.names_iff` — what a source names is what is found in it.
* `run_eq_sources` — **a search asks the sources one after the other until one of them names a gateway.**
* `Job.await_waiting` — work for a thread is done once, when a worker is free for the first time.
* `discover_inOrder` — what a search answers and which commands it runs: the answer is that of the first source
  that names a gateway, the commands are those of the sources up to this one, and a search in a thread is no
  different.
-/

namespace PortMap.Route

open Net

/-! ### Sources -/

/-- What may name the default gateway. -/
inductive Source where
  /-- The file of the kernel. -/
  | table
  /-- The command that prints the routing table. -/
  | print
  /-- The command `ip`. -/
  | ip
  /-- The command `route`. -/
  | route
  deriving DecidableEq

/-- The sources of a platform, in their order. -/
def sources (platform : String) : List Source :=
  if platform = "Windows" then [.print] else [.table, .ip, .route]

theorem sources_windows {platform : String} (h : platform = "Windows") : sources platform = [.print] :=
  if_pos h

theorem sources_elsewhere {platform : String} (h : platform ≠ "Windows") :
    sources platform = [.table, .ip, .route] :=
  if_neg h

namespace Source

/-- The command that is run to ask a source. -/
def command? : Source → Option (List String)
  | .table => none
  | .print => some ["route", "print", "0.0.0.0"]
  | .ip => some ["ip", "-4", "route", "show", "default"]
  | .route => some ["route", "-n", "get", "default"]

/-- What is read from a source. -/
def read : Source → List Char → Option Address
  | .table => KernelTable.gateway?
  | .print => PrintedTable.gateway?
  | .ip | .route => CommandOutput.gateway?

/-- A source names a gateway, which is read from a text. -/
inductive Names (host : Host) (s : Source) (a : Address) : Prop where
  /-- The text is the file of the kernel. -/
  | file {d : List UInt8} {text : List Char} : s.command? = none → host.table = .holding d →
      Text.readAscii d = .ok text → s.read text = some a → Names host s a
  /-- A program has printed it and has ended with status zero. -/
  | output {program : String} {arguments : List String} {output : String} :
      s.command? = some (program :: arguments) →
      host.commands.lookup program = some (.ended 0 output) → s.read output.toList = some a → Names host s a

/-- A source names no gateway. -/
def IsSilent (host : Host) (s : Source) : Prop := ∀ a, ¬ s.Names host a

end Source

/-- Nothing can be read from a program: it is not there, it does not run, it takes too long, it prints nothing,
or it ends with a status other than zero, whatever it prints. -/
inductive IsFruitless (host : Host) (program : String) : Prop where
  /-- It is not there. -/
  | missing : host.commands.lookup program = none → IsFruitless host program
  /-- It does not run. -/
  | failed {text : String} : host.commands.lookup program = some (.failed text) → IsFruitless host program
  /-- It takes too long. -/
  | timedOut : host.commands.lookup program = some .timedOut → IsFruitless host program
  /-- It prints nothing. -/
  | empty : host.commands.lookup program = some (.ended 0 "") → IsFruitless host program
  /-- It ends with another status. -/
  | status {status : Int} {output : String} : status ≠ 0 →
      host.commands.lookup program = some (.ended status output) → IsFruitless host program

/-! ### What a source names -/

/-- The gateway that the file of the kernel names. -/
def TableFile.gateway? : TableFile → Option Address
  | .holding d => (Text.readAscii d).toOption.bind KernelTable.gateway?
  | .absent | .unreadable _ => none

/-- The gateway that a source names. -/
def Source.gateway? (host : Host) (s : Source) : Option Address :=
  match s.command? with
  | none => host.table.gateway?
  | some command => Discovery.named? host s.read command

theorem TableFile.gateway?_of_text {d : List UInt8} {s : List Char} (text : Text.readAscii d = .ok s) :
    (TableFile.holding d).gateway? = KernelTable.gateway? s := by
  rw [gateway?, text]
  rfl

theorem TableFile.gateway?_eq_some_iff {t : TableFile} {a : Address} : t.gateway? = some a ↔
    ∃ d s, t = .holding d ∧ Text.readAscii d = .ok s ∧ KernelTable.gateway? s = some a := by
  constructor
  · intro found
    cases t with
    | absent | unreadable text => cases found
    | holding d =>
      cases text : Text.readAscii d with
      | error u =>
        rw [gateway?, text] at found
        cases found
      | ok s => exact ⟨d, s, rfl, text, gateway?_of_text text ▸ found⟩
  · rintro ⟨d, s, rfl, text, found⟩
    rw [gateway?_of_text text, found]

theorem TableFile.IsSilent.gateway?_eq_none {t : TableFile} (h : t.IsSilent) : t.gateway? = none := by
  cases h with
  | absent | unreadable text => rfl
  | without text names => rw [gateway?_of_text text, names]

/-- A command names what is read from its output, if it ends with status zero. -/
theorem Discovery.named?_eq_some_iff {host : Host} {read : List Char → Option Address} {program : String}
    {arguments : List String} {a : Address} : named? host read (program :: arguments) = some a ↔
      ∃ output, host.commands.lookup program = some (.ended 0 output) ∧ read output.toList = some a := by
  rw [named?, Option.bind_eq_some_iff]
  refine exists_congr fun output => and_congr_left fun _ => ?_
  rw [commandOutput?, List.headD_cons]
  cases host.commands.lookup program with
  | none => simp
  | some outcome =>
    cases outcome with
    | failed text | timedOut => simp
    | ended status printed => by_cases zero : status = 0 <;> simp [zero]

namespace Source

theorem eq_table_of_command? {s : Source} (h : s.command? = none) : s = .table := by
  cases s with
  | table => rfl
  | print | ip | route => cases h

theorem exists_command?_eq {s : Source} {command : List String} (h : s.command? = some command) :
    ∃ program arguments, command = program :: arguments := by
  cases s with
  | table => cases h
  | print | ip | route =>
    cases h
    exact ⟨_, _, rfl⟩

/-- **What a source names** is what is found in it. -/
theorem names_iff {host : Host} {s : Source} {a : Address} : s.Names host a ↔ s.gateway? host = some a := by
  constructor
  · intro names
    cases names with
    | file asksNone holds text found =>
      obtain rfl := eq_table_of_command? asksNone
      exact TableFile.gateway?_eq_some_iff.mpr ⟨_, _, holds, text, found⟩
    | output asks ends found =>
      rw [gateway?, asks]
      exact Discovery.named?_eq_some_iff.mpr ⟨_, ends, found⟩
  · intro found
    rw [gateway?] at found
    cases asks : s.command? with
    | none =>
      obtain rfl := eq_table_of_command? asks
      obtain ⟨d, t, holds, text, found⟩ := TableFile.gateway?_eq_some_iff.mp found
      exact .file rfl holds text found
    | some command =>
      obtain ⟨program, arguments, rfl⟩ := exists_command?_eq asks
      rw [asks] at found
      obtain ⟨output, ends, found⟩ := Discovery.named?_eq_some_iff.mp found
      exact .output asks ends found

theorem isSilent_iff {host : Host} {s : Source} : s.IsSilent host ↔ s.gateway? host = none := by
  simp only [IsSilent, names_iff, Option.eq_none_iff_forall_ne_some, ne_eq]

/-- There is no gateway in an empty text. -/
theorem read_empty (s : Source) : s.read "".toList = none := by
  cases s <;> rfl

/-- A program that nothing can be read from makes a silent source. -/
theorem isSilent_of_isFruitless {host : Host} {s : Source} {program : String} {arguments : List String}
    (asks : s.command? = some (program :: arguments)) (h : IsFruitless host program) : s.IsSilent host := by
  -- it has printed nothing, if it has ended with status zero
  have nothing : ∀ output, host.commands.lookup program = some (.ended 0 output) → output = "" := by
    intro output ends
    cases h with
    | missing found | failed found | timedOut found =>
      rw [found] at ends
      cases ends
    | empty found =>
      rw [found] at ends
      cases ends
      rfl
    | status other found =>
      rw [found] at ends
      cases ends
      exact absurd rfl other
  intro a names
  cases names with
  | file asksNone _ _ _ =>
    rw [asksNone] at asks
    cases asks
  | output asks' ends found =>
    rw [asks, Option.some.injEq, List.cons.injEq] at asks'
    rw [← asks'.1] at ends
    rw [nothing _ ends, read_empty] at found
    cases found

end Source

/-! ### Sources in their order -/

/-- The sources up to the first that names a gateway. -/
def consulted (host : Host) : List Source → List Source
  | [] => []
  | s :: rest => s :: if (s.gateway? host).isSome then [] else consulted host rest

theorem consulted_append {host : Host} {passed : List Source} (h : ∀ p ∈ passed, p.IsSilent host)
    (rest : List Source) : consulted host (passed ++ rest) = passed ++ consulted host rest := by
  induction passed with
  | nil => rfl
  | cons p passed ih =>
    obtain ⟨silent, others⟩ := List.forall_mem_cons.mp h
    rw [List.cons_append, consulted, Source.isSilent_iff.mp silent, ih others]
    rfl

theorem consulted_of_names {host : Host} {s : Source} {a : Address} (h : s.Names host a)
    (rest : List Source) : consulted host (s :: rest) = [s] := by
  rw [consulted, Source.names_iff.mp h]
  rfl

namespace Discovery

/-- The commands that are run outside of Windows are those of its sources. -/
theorem asked_showCommands (host : Host) :
    asked host showCommands = (consulted host [.ip, .route]).filterMap Source.command? := by
  have ip : named? host CommandOutput.gateway? ["ip", "-4", "route", "show", "default"] =
      Source.ip.gateway? host := rfl
  -- nothing comes after the second of them
  simp only [asked, showCommands, consulted, ite_self, ip]
  by_cases first : (Source.ip.gateway? host).isSome
  · rw [if_pos first, if_pos first]
    rfl
  · rw [if_neg first, if_neg first]
    rfl

/-- **A search asks the sources one after the other** until one of them names a gateway. -/
theorem run_eq_sources {host : Host} (ascii : host.platform ≠ "Windows" → ¬ host.table.IsForeign)
    (w : World) :
    (run host w).1 = answer host ((sources host.platform).findSome? (Source.gateway? host)) ∧
      (run host w).2.calls =
        w.calls ++ ((consulted host (sources host.platform)).filterMap Source.command?).map .run := by
  by_cases h : host.platform = "Windows"
  · rw [run_eq_of_windows h, sources_windows h]
    constructor
    · have print : named? host PrintedTable.gateway? printCommand = Source.print.gateway? host := rfl
      rw [List.findSome?_cons, List.findSome?_nil, print]
      cases Source.print.gateway? host <;> rfl
    · rw [ask_calls, consulted, consulted, ite_self]
      rfl
  · rw [sources_elsewhere h, List.findSome?_cons, consulted]
    rcases host.table.silent_or with silent | ⟨d, s, a, table, text, names⟩ | ⟨d, u, table, text⟩
    · obtain ⟨found, calls⟩ := run_of_silent h silent w
      have nothing : Source.table.gateway? host = none := silent.gateway?_eq_none
      rw [found, calls, nothing, asked_showCommands]
      exact ⟨rfl, rfl⟩
    · have found : Source.table.gateway? host = some a :=
        TableFile.gateway?_eq_some_iff.mpr ⟨d, s, table, text, names⟩
      rw [run_eq_of_table h table text names, found]
      exact ⟨rfl, (List.append_nil _).symm⟩
    · exact absurd (table ▸ TableFile.isForeign_of_undecodable text) (ascii h)

end Discovery

end PortMap.Route

namespace PortMap.Session

open Net Route

/-! ### Work in a thread -/

namespace Job

variable {α : Type}

theorem await_finished (r : α) (turns : List Bool) (w : World) :
    (finished r).await turns w = (some r, w) := by
  induction turns with
  | nil => rfl
  | cons free turns ih => exact ih

/-- **Work for a thread is done once**, when a worker is free for the first time. -/
theorem await_waiting (work : World → α × World) (turns : List Bool) (w : World) :
    (waiting work).await turns w = if true ∈ turns then (some (work w).1, (work w).2) else (none, w) := by
  induction turns with
  | nil => rfl
  | cons free turns ih =>
    cases free with
    | true =>
      rw [if_pos List.mem_cons_self]
      exact await_finished (work w).1 turns (work w).2
    | false => simpa [await, turn] using ih

end Job

/-! ### The search -/

/-- A search ends with the complaint that there is no gateway, with the name of the platform. -/
def Complains (platform : String) (r : Except Fault Address) : Prop :=
  ∃ e c, r = .error e ∧ e.complaint? = some c ∧ c.kind = .gatewayNotFound ∧
    c.details = .table [("platform", .text platform)]

/-- What a search answers and which commands it runs, by what the sources name. -/
structure FindsInOrder (host : Host) (r : Except Fault Address) (commands : List (List String)) : Prop where
  /-- The answer is that of the first source that names a gateway. -/
  answer : ∀ a, r = .ok a ↔ ∃ passed s rest, sources host.platform = passed ++ s :: rest ∧
    (∀ p ∈ passed, p.IsSilent host) ∧ s.Names host a
  /-- No command is run after it. -/
  stops : ∀ passed s rest a, sources host.platform = passed ++ s :: rest →
    (∀ p ∈ passed, p.IsSilent host) → s.Names host a → commands = (passed ++ [s]).filterMap Source.command?
  /-- There is a complaint exactly if no source names a gateway. -/
  complains : Complains host.platform r ↔ ∀ s ∈ sources host.platform, s.IsSilent host
  /-- Then all of them are asked. -/
  exhausts : (∀ s ∈ sources host.platform, s.IsSilent host) →
    commands = (sources host.platform).filterMap Source.command?

theorem complains_answer_iff (host : Host) (found : Option Address) :
    Complains host.platform ((Discovery.answer host found).mapError .discovery) ↔ found = none := by
  cases found with
  | none => exact iff_of_true ⟨_, _, rfl, rfl, rfl, rfl⟩ rfl
  | some a =>
    refine iff_of_false ?_ (Option.some_ne_none a)
    rintro ⟨e, c, ends, -⟩
    cases ends

theorem answer_eq_ok_iff (host : Host) (found : Option Address) (a : Address) :
    (Discovery.answer host found).mapError Fault.discovery = .ok a ↔ found = some a := by
  cases found with
  | none =>
    constructor
    · intro ends
      cases ends
    · intro found
      cases found
  | some b =>
    constructor
    · intro ends
      cases ends
      rfl
    · intro found
      cases found
      rfl

/-- **What a search answers and which commands it runs**, if the file of the kernel is a text where it counts.
The answer is that of the first source that names a gateway, in the order of the platform, and the commands are
those of the sources up to this one; without one, there is a complaint. A program that nothing can be read from
names no gateway. In a thread the search is the same, as soon as a worker is free, and nothing is done before. -/
theorem discover_inOrder {host : Host} (ascii : host.platform ≠ "Windows" → ¬ host.table.IsForeign)
    (w : World) :
    (∃ commands, (discover host w).2.calls = w.calls ++ commands.map .run ∧
      FindsInOrder host (discover host w).1 commands) ∧
    (∀ s program arguments, Source.command? s = some (program :: arguments) → IsFruitless host program →
      s.IsSilent host) ∧
    ∀ turns, (discoverAside host).await turns w =
      if true ∈ turns then (some (discover host w).1, (discover host w).2) else (none, w) := by
  obtain ⟨found, calls⟩ := Discovery.run_eq_sources ascii w
  refine ⟨⟨_, by rw [discover_eq]; exact calls, ?_⟩, ?_, ?_⟩
  · rw [discover_eq, found]
    constructor
    · intro a
      rw [answer_eq_ok_iff, List.findSome?_eq_some_iff]
      simp only [Source.names_iff, Source.isSilent_iff]
      constructor
      · rintro ⟨passed, s, rest, order, names, silent⟩
        exact ⟨passed, s, rest, order, silent, names⟩
      · rintro ⟨passed, s, rest, order, silent, names⟩
        exact ⟨passed, s, rest, order, names, silent⟩
    · intro passed s rest a order silent names
      rw [order, consulted_append silent, consulted_of_names names]
    · rw [complains_answer_iff, List.findSome?_eq_none_iff]
      simp only [Source.isSilent_iff]
    · intro silent
      have asked := consulted_append silent []
      rw [List.append_nil] at asked
      rw [asked, consulted, List.append_nil]
  · intro s program arguments asks fruitless
    exact Source.isSilent_of_isFruitless asks fruitless
  · intro turns
    exact Job.await_waiting (discover host) turns w

/-- The command `ip` ends with status one after it has printed a route; the command `route` names the gateway,
and a worker is free in the second turn. -/
theorem discover_inOrder_status :
    let host : Host := ⟨"Linux", .holding [0x49, 0x0a],
      [("ip", .ended 1 "default via 10.0.0.9"), ("route", .ended 0 "gateway: 10.0.0.1")]⟩
    ((discoverAside host).await [false, true] {}).1 = some (.ok ⟨10, 0, 0, 1⟩) ∧
      (discover host {}).2.calls =
        [.run ["ip", "-4", "route", "show", "default"], .run ["route", "-n", "get", "default"]] := by
  intro host
  have ascii : ¬ host.table.IsForeign := by
    have text : Text.readAscii [0x49, 0x0a] = .ok ['I', '\n'] := by rfl
    exact TableFile.not_isForeign_of_text text
  obtain ⟨⟨commands, calls, inOrder⟩, fruitless, aside⟩ := @discover_inOrder host (fun _ => ascii) {}
  have silent : ∀ p ∈ [Source.table, .ip], p.IsSilent host := by
    simp only [List.forall_mem_cons]
    refine ⟨Source.isSilent_iff.mpr (by rfl), ?_, List.forall_mem_nil _⟩
    exact fruitless .ip "ip" _ rfl (.status (by decide : (1 : Int) ≠ 0) rfl)
  have names : Source.route.Names host ⟨10, 0, 0, 1⟩ := .output rfl rfl (by rfl)
  rw [aside, calls, inOrder.stops [.table, .ip] .route [] ⟨10, 0, 0, 1⟩ rfl silent names]
  refine ⟨congrArg some ?_, rfl⟩
  exact (inOrder.answer _).mpr ⟨[.table, .ip], .route, [], rfl, silent, names⟩

end PortMap.Session
