import PortMap.Proofs.Cli.Order
import PortMap.Proofs.Cli.Plan
import PortMap.Proofs.Session.Conforming
import PortMap.Proofs.Session.Misfit
import PortMap.Proofs.Session.Opening

/-!
# From the words of a command to the wire

A command that is carried out opens a session, lets it do one step, and closes it. The request of that step
is what the words ask for, filled up from the settings (`Order.Asks`).

## The argument

Three checks keep every value within its field: the words of the command are read within limits
(`Order.Reads.fits`), the settings are within bounds, and the gateway is an address by then. So the step has
a message (`exists_request?`), which is the first that is handed over (`perform_sends`), and no fault of the
run is that a value misfits.

## What is proved

* `command_line_to_wire` — **all of this for every command line**, whatever the settings and the network.
-/

namespace PortMap.Net

/-- Between two worlds calls were made, and those that hand over bytes handed over these, in order. -/
def Sends (w u : World) (sent : List Wire.Bytes) : Prop :=
  ∃ calls, u.calls = w.calls ++ calls ∧ calls.filterMap Call.bytes? = sent

namespace Sends

variable {w u v : World} {sent more : List Wire.Bytes}

theorem of_calls_eq (h : u.calls = w.calls) : Sends w u [] := ⟨[], by rw [h, List.append_nil], rfl⟩

theorem trans (h : Sends w u sent) (h' : Sends u v more) : Sends w v (sent ++ more) := by
  obtain ⟨calls, hu, rfl⟩ := h
  obtain ⟨calls', hv, rfl⟩ := h'
  exact ⟨calls ++ calls', by rw [hv, hu, List.append_assoc], List.filterMap_append⟩

/-- Commands that are run and notices that are written send nothing. -/
theorem of_asks (h : Route.Asks w u) : Sends w u [] := by
  obtain ⟨commands, notices, rfl⟩ := h
  refine ⟨commands.map .run, rfl, ?_⟩
  rw [List.filterMap_map]
  exact List.filterMap_eq_nil_iff.mpr fun _ _ => rfl

end Sends

end PortMap.Net

namespace PortMap.Cli

open Wire Net Session

/-! ### Opening a session -/

/-- Opening a session at an address sends nothing, and no fault of it is a misfit. -/
theorem openAt_sends (a : Address) (timeout maxAttempts : Value) (backoff : Option Schedule) (w : World) :
    Sends w (openAt .async a timeout maxAttempts backoff w).2 [] ∧
      ∀ e, (openAt .async a timeout maxAttempts backoff w).1 = .error e → ¬ e.IsMisfit := by
  obtain ⟨calls, leaves, opens⟩ := openAt_opens .async a timeout maxAttempts backoff w
  generalize openAt .async a timeout maxAttempts backoff w = opened at leaves opens ⊢
  obtain ⟨r, u⟩ := opened
  have told {e : Fault} {c : Complaint} (h : e.complaint? = some c) : ¬ e.IsMisfit := fun misfit =>
    nomatch h.symm.trans (Fault.complaint?_of_isMisfit misfit)
  refine ⟨⟨calls, leaves, ?_⟩, fun e he => ?_⟩
  · cases opens <;> rfl
  · cases he
    cases opens with
    | notMade _ complaint => exact told complaint
    | notBound _ _ complaint => exact told complaint
    | refused _ _ refuses => cases refuses
    | notConnected _ _ _ _ complaint => exact told complaint

variable {c : Settings.Client} {host : Route.Host} {w : World} {o : Order}

/-- The default gateway is searched without a send, and a fault of the search is no misfit. -/
theorem discover_sends (host : Route.Host) (w : World) :
    Sends w (discover host w).2 [] ∧ ∀ e, (discover host w).1 = .error e → ¬ e.IsMisfit := by
  refine ⟨.of_asks ((Source.host host).address_asks w), fun e he => ?_⟩
  unfold discover at he
  split at he
  · cases he
  · cases he
    exact id

/-- Opening the session that the settings ask for sends nothing, and no fault of it is a misfit. -/
theorem openSession_sends (c : Settings.Client) (host : Route.Host) (w : World) :
    Sends w (openSession c host w).2 [] ∧ ∀ e, (openSession c host w).1 = .error e → ¬ e.IsMisfit := by
  unfold openSession
  cases c.gateway with
  | some a => exact openAt_sends a _ _ _ w
  | none =>
    obtain ⟨asks, fits⟩ := discover_sends host w
    dsimp only
    unfold openDefault
    rcases hd : discover host w with ⟨e | a, u⟩ <;> rw [hd] at asks fits
    · exact ⟨asks, fun e' he => fits e' (by cases he; rfl)⟩
    · obtain ⟨opens, opensFit⟩ := openAt_sends a (.real c.timeout) (.whole c.maxAttempts) c.schedule? u
      exact ⟨asks.trans opens, opensFit⟩

/-! ### The step of a command -/

/-- The step that a command lets a session do; the command that shows the default gateway needs none. -/
def Order.step? (o : Order) (c : Settings.Client) : Option Step :=
  match o with
  | .gateway => none
  | .address => some .publicAddress
  | .map protocol privatePort publicPort lifetime =>
    some (.mapPort (.known protocol) (.whole privatePort) (.whole publicPort)
      (.whole (lifetime.getD c.mappingLifetime)))
  | .unmap protocol privatePort => some (.unmapPort (.known protocol) (.whole privatePort))

/-- What a coroutine does over a session is the same, with another answer, as what a step does. -/
def DoesStep {α : Type} (talk : Session → Coroutine α) (step : Step) : Prop :=
  ∀ (s : Session) (w : World), ((talk s).run s.transport w).2 = (Direct.step .async s step w).2 ∧
    ∀ e, ((talk s).run s.transport w).1 = .error e ↔ (Direct.step .async s step w).1 = .error e

theorem doesStep_of_runsAs {α β : Type} {action : Session → Coroutine α} {x : Session → Exchange α}
    {step : Step} {answer : α → Answer} (runs : ∀ s, (action s).RunsAs s.transport (x s))
    (steps : ∀ s, Direct.step .async s step = answer <$> x s) (shows : Session → α → β) :
    DoesStep (fun s => do let a ← action s; return shows s a) step := by
  intro s w
  rw [Coroutine.run_bind, runs s w, steps s, Exchange.map_apply]
  rcases x s w with ⟨e | a, u⟩
  · exact ⟨rfl, fun e' => by simp [Except.map]⟩
  · exact ⟨rfl, fun e' => iff_of_false nofun nofun⟩

/-- A command carries out its step. -/
theorem conversation?_doesStep {talk : Session → Coroutine String} (h : o.conversation? c = some talk) :
    ∃ step, o.step? c = some step ∧ DoesStep talk step := by
  cases o with
  | gateway => cases h
  | address =>
    cases h
    exact ⟨_, rfl, doesStep_of_runsAs publicAddress_runsAs (fun _ => rfl) _⟩
  | map p a b l =>
    cases h
    exact ⟨_, rfl, doesStep_of_runsAs (fun s => mapPort_runsAs s _ _ _ _) (fun _ => rfl) _⟩
  | unmap p a =>
    cases h
    exact ⟨_, rfl, doesStep_of_runsAs (fun s => unmapPort_runsAs s _ _) (fun _ => rfl)
      fun _ _ => deletedText p a⟩

/-! ### The request of a command -/

/-- A message is the request of a command, with what the settings add to it. -/
inductive Order.Asks (c : Settings.Client) : Order → Bytes → Prop
  /-- The question for the public address has two bytes. -/
  | address : Asks c .address [0, 0]
  /-- A mapping request holds the ports and the lifetime, which the settings give if the user does not. -/
  | map {p : Protocol} {a b : Int} {l : Option Int} {d : Bytes} {x y : UInt16} {z : UInt32} :
      d.length = 12 → Request.decode d = .ok (.mapping p x y z) →
      (x.toNat : Int) = a → (y.toNat : Int) = b → (z.toNat : Int) = l.getD c.mappingLifetime →
      Asks c (.map p a b l) d
  /-- A mapping is deleted with public port zero and lifetime zero. -/
  | unmap {p : Protocol} {a : Int} {d : Bytes} {x : UInt16} :
      d.length = 12 → Request.decode d = .ok (.mapping p x 0 0) → (x.toNat : Int) = a →
      Asks c (.unmap p a) d

/-- Whole numbers within the fields make the message of a mapping request. -/
theorem exists_mappingRequest (p : Protocol) {a b l : Int} (ha : 0 ≤ a ∧ a ≤ 65535) (hb : 0 ≤ b ∧ b ≤ 65535)
    (hl : 0 ≤ l ∧ l ≤ 4294967295) :
    ∃ d, mappingRequest (.known p) (.whole a) (.whole b) (.whole l) = .ok d ∧ d.length = 12 ∧
      ∃ (x y : UInt16) (z : UInt32), Request.decode d = .ok (.mapping p x y z) ∧
        (x.toNat : Int) = a ∧ (y.toNat : Int) = b ∧ (z.toNat : Int) = l := by
  obtain ⟨d, made⟩ := (exists_mappingRequest_iff (.known p) (.whole a) (.whole b) (.whole l)).mpr
    ⟨⟨a, rfl, ha⟩, ⟨b, rfl, hb⟩, ⟨l, rfl, hl⟩⟩
  obtain ⟨length, x, y, z, hx, hy, hz, reads⟩ := decode_of_mappingRequest made
  have read := reads []
  rw [List.append_nil] at read
  exact ⟨d, made, length, x, y, z, read, (Option.some.inj hx).symm, (Option.some.inj hy).symm,
    (Option.some.inj hz).symm⟩

/-- The step of a command within bounds has a message, the request of the command. -/
theorem exists_request? {step : Step} (fits : o.Fits) (within : c.WithinBounds) (h : o.step? c = some step) :
    ∃ d, step.request? = some (.ok d) ∧ o.Asks c d := by
  cases o with
  | gateway => cases h
  | address =>
    cases h
    exact ⟨_, rfl, .address⟩
  | map p a b l =>
    cases h
    obtain ⟨privatePort, publicPort, lifetime⟩ := fits
    have seconds : 0 ≤ l.getD c.mappingLifetime ∧ l.getD c.mappingLifetime ≤ 4294967295 := by
      cases l with
      | none => exact within.mappingLifetime
      | some n => exact lifetime n rfl
    obtain ⟨d, made, length, x, y, z, read, hx, hy, hz⟩ :=
      exists_mappingRequest p privatePort publicPort seconds
    exact ⟨d, congrArg some made, .map length read hx hy hz⟩
  | unmap p a =>
    cases h
    obtain ⟨d, made, length, x, y, z, read, hx, hy, hz⟩ :=
      exists_mappingRequest p fits (b := 0) (by decide) (l := 0) (by decide)
    obtain rfl : y = 0 := UInt16.toNat_inj.mp (by exact_mod_cast hy)
    obtain rfl : z = 0 := UInt32.toNat_inj.mp (by exact_mod_cast hz)
    exact ⟨d, congrArg some made, .unmap length read hx⟩

/-! ### Carrying out a command -/

theorem noteFault_sends (e : Session.Fault) (w : World) : Sends w (noteFault e w) [] := by
  refine .of_calls_eq ?_
  unfold noteFault
  split <;> rfl

/-- Closing a session sends nothing. -/
theorem close_sends (s : Session) (w : World) : Sends w ((Async.close s).run s.transport w).2 [] := by
  rw [close_runsAs s w, close_apply]
  cases s.transport.closing with
  | absent => exact .of_calls_eq rfl
  | immediate | awaited => exact ⟨[.close], rfl, rfl⟩

/-- A step hands over its request first. -/
theorem step_sends {s : Session} {step : Step} {d : Bytes} (h : step.request? = some (.ok d)) (w : World) :
    ∃ more, Sends w (Direct.step .async s step w).2 (d :: more) := by
  obtain ⟨calls, made⟩ := step_sends_first (s := s) h w
  exact ⟨calls.filterMap Call.bytes?, .send d :: calls, by rw [← made, List.append_assoc]; rfl, rfl⟩

/-- A session with a step hands over the request of the step first, if it opens, and no fault of it is a
misfit. -/
theorem withSession_sends {α : Type} {talk : Session → Coroutine α} {step : Step} {d : Bytes}
    (does : DoesStep talk step) (h : step.request? = some (.ok d)) (c : Settings.Client) (host : Route.Host)
    (w : World) :
    (∃ sent, Sends w (withSession c host talk w).2 sent ∧
      (sent = [] ∧ (∃ e, (openSession c host w).1 = .error e) ∨
        (∃ more, sent = d :: more) ∧ ∃ s, (openSession c host w).1 = .ok s)) ∧
    ∀ e, (withSession c host talk w).1 = .error e → ¬ e.IsMisfit := by
  obtain ⟨opens, opensFit⟩ := openSession_sends c host w
  unfold withSession
  rcases ho : openSession c host w with ⟨e | s, u⟩ <;> rw [ho] at opens opensFit
  · exact ⟨⟨[], opens.trans (noteFault_sends e u), .inl ⟨rfl, e, rfl⟩⟩,
      fun e' he => opensFit e' (by cases he; rfl)⟩
  · obtain ⟨same, sameFault⟩ := does s u
    obtain ⟨more, asks⟩ := step_sends (s := s) h u
    have closes := close_sends s ((talk s).run s.transport u).2
    rw [← same] at asks
    have all := (opens.trans asks).trans closes
    rw [List.append_nil] at all
    have fits := fun e he => step_fits s h u e ((sameFault e).mp he)
    dsimp only
    rcases hr : (talk s).run s.transport u with ⟨e | a, v⟩ <;> rw [hr] at all fits
    · have noted := all.trans (noteFault_sends e _)
      rw [List.append_nil] at noted
      exact ⟨⟨_, noted, .inr ⟨⟨more, rfl⟩, s, rfl⟩⟩, fun e' he => fits e' (by cases he; rfl)⟩
    · exact ⟨⟨_, all, .inr ⟨⟨more, rfl⟩, s, rfl⟩⟩, nofun⟩

/-- **A command within bounds hands over its request first**, if its session opens, and nothing if not; and no
fault of it is a misfit. -/
theorem perform_sends (fits : o.Fits) (within : c.WithinBounds) (host : Route.Host) (w : World) :
    (∃ sent, Sends w (o.perform c host w).2 sent ∧
      (sent = [] ∧ (o = .gateway ∨ ∃ e, (openSession c host w).1 = .error e) ∨
        ∃ d more, sent = d :: more ∧ o.Asks c d)) ∧
    ∀ e, (o.perform c host w).1 = .error e → ¬ e.IsMisfit := by
  unfold Order.perform
  cases talks : o.conversation? c with
  | none =>
    obtain ⟨asks, discoverFits⟩ := discover_sends host w
    have isGateway : o = .gateway := by
      cases o <;> first | rfl | cases talks
    dsimp only
    rcases hd : discover host w with ⟨e | a, u⟩ <;> rw [hd] at asks discoverFits
    · exact ⟨⟨[], asks, .inl ⟨rfl, .inl isGateway⟩⟩, fun e' he => discoverFits e' (by cases he; rfl)⟩
    · exact ⟨⟨[], asks, .inl ⟨rfl, .inl isGateway⟩⟩, nofun⟩
  | some talk =>
    obtain ⟨step, isStep, does⟩ := conversation?_doesStep talks
    obtain ⟨d, made, asked⟩ := exists_request? fits within isStep
    obtain ⟨⟨sent, sends, shape⟩, sessionFits⟩ := withSession_sends does made c host w
    refine ⟨⟨sent, sends, ?_⟩, sessionFits⟩
    rcases shape with ⟨nothing, fails⟩ | ⟨⟨more, first⟩, -⟩
    · exact .inl ⟨nothing, .inr fails⟩
    · exact .inr ⟨d, more, first, asked⟩

/-! ### Every command line -/

/-- The words of a command line say what is carried out: its options, its command, and what stands after the
command. The gateway among the options, if there is one, is the text of the gateway that is used. -/
def Said (words : List String) (s : Surroundings) (o : Order) (c : Settings.Client) : Prop :=
  ∃ options rest command arguments raw plain,
    Options.ofWords s.tree words = .ok (.proceed (options, rest)) ∧
    (∀ g, options.gateway = some g → ∃ a, c.gateway = some a ∧ g = a.text) ∧
    findCommand s.tree rest = .ok (.proceed (command, arguments)) ∧
    Words.split command.spellings true arguments = .ok (raw, plain) ∧ Order.Reads raw command plain o

/-- A gateway among the options that are accepted is the text of the gateway that is used. -/
theorem gateway_of_laidOver {options : Options} {before settings : Settings} {g : String}
    (h : options.laidOver before = .ok settings) (given : options.gateway = some g) :
    ∃ a, settings.client.gateway = some a ∧ g = a.text := by
  obtain ⟨config, gateway, timeout, attempts, backoff, verbose⟩ := options
  cases given
  unfold Options.laidOver at h
  split at h
  · cases h
  · rename_i client above
    cases h
    -- nothing else among the options stands at the name of the gateway
    have there : (Table.overlay before.client.toTable
        (Options.clientTable ⟨config, some g, timeout, attempts, backoff, verbose⟩)).get? "gateway" =
          some (.text g) := by
      change (Table.overlay _ (("gateway", Value.text g) :: _)).get? "gateway" = _
      rw [Table.overlay_cons, Table.get?_overlay_of_notMem, Table.get?_put, if_pos rfl,
        Value.over_of_not_table rfl]
      cases timeout <;> cases attempts <;> cases backoff <;> simp [Table.names]
    unfold Options.overClient at above
    split at above
    · rename_i empty
      cases empty
    have same := Settings.Client.gateway_of_ofTable above there
    dsimp only
    cases hg : client.gateway with
    | none =>
      rw [hg] at same
      cases same
    | some a =>
      rw [hg] at same
      cases same
      exact ⟨a, rfl, rfl⟩

theorem said_of_plan {words : List String} {s : Surroundings} {settings : Settings} {start : Report}
    (h : plan words s = .ok (.carryOut o settings start)) : Said words s o settings.client ∧ o.Fits := by
  obtain ⟨-, options, rest, command, arguments, reads, finds, planned⟩ := plan_eq_carryOut_iff.mp h
  obtain ⟨l, store, -, above, -, accepted, -⟩ := planWithOptions_eq_carryOut_iff.mp planned
  obtain ⟨raw, plain, parts, -, read⟩ := Order.ofWords_eq_ok_iff.mp accepted
  exact ⟨⟨options, rest, command, arguments, raw, plain, reads, fun g => gateway_of_laidOver above, finds,
    parts, read⟩, read.fits⟩

/-- A run ends with a fault of a session only if the command did. -/
theorem outcome_of_finish {start : Report} {settings : Settings} {outcome : Except Session.Fault String}
    {u : World} {e : Session.Fault} (h : start.finish settings outcome u = .error (.session e)) :
    outcome = .error e := by
  unfold Report.finish at h
  split at h
  · cases h
  · split at h
    · cases h
    · cases h
      rfl

theorem world_of_finish {start r : Report} {settings : Settings} {outcome : Except Session.Fault String}
    {u : World} (h : start.finish settings outcome u = .ok r) : r.world = u := by
  unfold Report.finish at h
  split at h
  · cases h
    rfl
  · split at h
    · cases h
      rfl
    · cases h

/-- **From every command line to the wire.** -/
theorem command_line_to_wire (words : List String) (s : Surroundings) :
    -- a command line that comes to no command leaves the network alone
    (∀ r, plan words s = .ok (.finished r) → run words s = .ok r ∧ r.world = s.world) ∧
    -- no run ends with a value that does not fit the wire
    (∀ e, run words s = .error (.session e) → ¬ e.IsMisfit) ∧
    -- a command that is carried out was said in words whose numbers fit the wire
    ∀ o settings start, plan words s = .ok (.carryOut o settings start) →
      Said words s o settings.client ∧ o.Fits ∧
      -- and its run hands over the request of the command first, if its session opens
      ∃ w sent, (o.perform settings.client s.host s.world).2 = w ∧ Sends s.world w sent ∧
        (∀ r, run words s = .ok r → r.world = w) ∧
        (sent = [] ∧ (o = .gateway ∨ ∃ e, (openSession settings.client s.host s.world).1 = .error e) ∨
          ∃ d more, sent = d :: more ∧ o.Asks settings.client d) := by
  have performed {o : Order} {settings : Settings} {start : Report}
      (h : plan words s = .ok (.carryOut o settings start)) :=
    perform_sends (said_of_plan h).2 (withinBounds_of_plan h) s.host start.world
  refine ⟨fun r finished => ?_, fun e escapes => ?_, fun o settings start planned => ?_⟩
  · refine ⟨?_, world_plan finished⟩
    rw [run, finished]
  · unfold run at escapes
    split at escapes
    · rename_i failed
      cases escapes
      exact absurd failed (plan_ne_session e)
    · cases escapes
    · rename_i planned
      exact (performed planned).2 e (outcome_of_finish escapes)
  · have world : start.world = s.world := world_plan planned
    obtain ⟨⟨sent, sends, shape⟩, -⟩ := performed planned
    obtain ⟨said, fits⟩ := said_of_plan planned
    rw [world] at sends shape
    refine ⟨said, fits, _, sent, rfl, sends, fun r runs => ?_, shape⟩
    have finishes : start.finish settings (o.perform settings.client s.host start.world).1
        (o.perform settings.client s.host start.world).2 = .ok r := by
      rwa [run, planned] at runs
    rw [world_of_finish finishes, world]

/-- A mapping of which the protocol is named in capitals and small letters, and for which the environment
gives the lifetime. -/
theorem command_line_to_wire_tcp :
    let words := ["--gateway", "10.0.0.1", "map", "TcP", "80"]
    let s : Surroundings :=
      { tree := ⟨"", ["cwd"], ["home"], [], [[]]⟩, environment := [("NATPMPC_MAPPING_LIFETIME", "60")] }
    let c : Settings.Client := { gateway := some ⟨10, 0, 0, 1⟩, mappingLifetime := 60 }
    (∃ start, plan words s = .ok (.carryOut (.map .tcp 80 0 none) ⟨c, {}⟩ start)) ∧
      ∃ d more, Sends s.world ((Order.map .tcp 80 0 none).perform c s.host s.world).2 (d :: more) ∧
        Request.decode d = .ok (.mapping .tcp 80 0 60) := by
  intro words s c
  have planned : plan words s = .ok (.carryOut (.map .tcp 80 0 none) ⟨c, {}⟩
      { world := s.world, level := some .warning }) := by
    refine plan_eq_carryOut_iff.mpr ⟨by decide, { gateway := some "10.0.0.1" }, ["map", "TcP", "80"], .map,
      ["TcP", "80"], by with_unfolding_all rfl, rfl, planWithOptions_eq_carryOut_iff.mpr ?_⟩
    refine ⟨⟨none, ⟨⟨{ mappingLifetime := 60 }, {}⟩, []⟩⟩, _, rfl, ?_, ⟨_, rfl⟩, by with_unfolding_all rfl, ?_⟩
    · refine laidOver_of_withinBounds ?_ rfl rfl rfl
      exact { Settings.Client.withinBounds_default with
        mappingLifetime := by decide
        gateway := fun a _ => Address.ofValue_text a }
    · rfl
  obtain ⟨-, -, carriedOut⟩ := command_line_to_wire words s
  obtain ⟨-, -, w, sent, rfl, sends, -, shape⟩ := carriedOut _ _ _ planned
  refine ⟨⟨_, planned⟩, ?_⟩
  rcases shape with ⟨-, isGateway | ⟨e, fails⟩⟩ | ⟨d, more, rfl, asks⟩
  · cases isGateway
  · cases fails
  · refine ⟨d, more, sends, ?_⟩
    cases asks with
    | @map p a b l d x y z length read hx hy hz =>
      obtain rfl : x = 80 := UInt16.toNat_inj.mp (by exact_mod_cast hx)
      obtain rfl : y = 0 := UInt16.toNat_inj.mp (by exact_mod_cast hy)
      have seconds : (z.toNat : Int) = 60 := hz
      obtain rfl : z = 60 := UInt32.toNat_inj.mp (by exact_mod_cast seconds)
      exact read

end PortMap.Cli
