import Mathlib.Data.List.Forall2
import PortMap.Proofs.Route.KernelRow
import PortMap.Proofs.Route.PrintedRow

/-!
# One table of routes, read from its two forms

The routes of a host are known in two forms: as the kernel shows them, and as Windows prints them. The
default route is the first one with destination and netmask `0.0.0.0` that has a gateway (`defaultGateway?`).

## What is proved

* `PrintedTable.gateway?_of_shows` — from a printed table the gateway of the default route is read.
* `KernelTable.gateway?_of_shows` — from the table of the kernel the gateway of the first route is read that
  has destination `0.0.0.0`, **whatever its netmask is**.
* `tables_read` — so the two forms are read alike if that route is a default route.
* `half_route_taken` — a route to half of all addresses is taken for the default route in one of the forms.
-/

namespace PortMap.Route

open Text

/-! ### Routes -/

/-- A route. -/
structure Entry where
  /-- The destination. -/
  destination : Address
  /-- The netmask, which says how much of the destination counts. -/
  netmask : Address
  /-- The gateway; without one the destination is on the link. -/
  gateway : Option Address
  deriving DecidableEq, Repr

namespace Entry

/-- A route leads to every address. -/
def IsDefault (e : Entry) : Prop := e.destination = .any ∧ e.netmask = .any

instance (e : Entry) : Decidable e.IsDefault := inferInstanceAs (Decidable (_ ∧ _))

/-- A route goes through a gateway, and its destination is written as that of a default route. -/
def SeemsDefault (e : Entry) : Prop := e.destination = .any ∧ e.gateway.isSome

instance (e : Entry) : Decidable e.SeemsDefault := inferInstanceAs (Decidable (_ ∧ _))

end Entry

/-- The gateway of the default route. -/
def defaultGateway? (routes : List Entry) : Option Address :=
  routes.findSome? fun e => if e.IsDefault then e.gateway else none

/-- The first route that seems to be a default route. -/
def firstSeeming? (routes : List Entry) : Option Entry := routes.find? fun e => e.SeemsDefault

theorem firstSeeming?_cons_of_pos {e : Entry} (h : e.SeemsDefault) (routes : List Entry) :
    firstSeeming? (e :: routes) = some e :=
  List.find?_cons_of_pos (p := fun e : Entry => decide e.SeemsDefault) (decide_eq_true h)

theorem firstSeeming?_cons_of_neg {e : Entry} (h : ¬ e.SeemsDefault) (routes : List Entry) :
    firstSeeming? (e :: routes) = firstSeeming? routes :=
  List.find?_cons_of_neg (p := fun e : Entry => decide e.SeemsDefault) (by simpa using h)

theorem seemsDefault_of_mem_firstSeeming? {e : Entry} {routes : List Entry}
    (h : e ∈ firstSeeming? routes) : e.SeemsDefault :=
  of_decide_eq_true (List.find?_some (p := fun e : Entry => decide e.SeemsDefault) h)

/-- A table that tells the gateways of routes with a property, which all have destination `0.0.0.0`, tells the
one of the first route that seems to be a default route, if that has the property. -/
theorem findSome?_eq_of_firstSeeming {P : Entry → Prop} [DecidablePred P] {routes : List Entry}
    (any : ∀ e, P e → e.destination = .any) (first : ∀ e ∈ firstSeeming? routes, P e) :
    (routes.findSome? fun e => if P e then e.gateway else none) =
      (firstSeeming? routes).bind Entry.gateway := by
  induction routes with
  | nil => rfl
  | cons e routes ih =>
    rw [List.findSome?_cons]
    by_cases seems : e.SeemsDefault
    · rw [firstSeeming?_cons_of_pos seems] at first ⊢
      obtain ⟨a, gateway⟩ := Option.isSome_iff_exists.mp seems.2
      rw [if_pos (first e rfl), Option.bind_some, gateway]
    · rw [firstSeeming?_cons_of_neg seems] at first ⊢
      -- a route that does not seem to be a default route is none with the property, or has no gateway
      have untold : (if P e then e.gateway else none) = none := by
        by_cases property : P e
        · rw [if_pos property, ← Option.not_isSome_iff_eq_none]
          exact fun gateway => seems ⟨any e property, gateway⟩
        · exact if_neg property
      rw [untold]
      exact ih first

/-- The first gateway of a route with destination `0.0.0.0`. -/
theorem findSome?_any (routes : List Entry) :
    (routes.findSome? fun e => if e.destination = .any then e.gateway else none) =
      (firstSeeming? routes).bind Entry.gateway := by
  apply findSome?_eq_of_firstSeeming
  · exact fun e => id
  · intro e he
    exact (seemsDefault_of_mem_firstSeeming? he).1

/-- If the first route that seems to be a default route is one, its gateway is the one of the default
route. -/
theorem defaultGateway?_eq_of_firstSeeming {routes : List Entry}
    (h : ∀ e ∈ firstSeeming? routes, e.netmask = .any) :
    defaultGateway? routes = (firstSeeming? routes).bind Entry.gateway := by
  apply findSome?_eq_of_firstSeeming
  · exact fun e default_ => default_.1
  · intro e he
    exact ⟨(seemsDefault_of_mem_firstSeeming? he).1, h e he⟩

/-- What rows tell one by one, the table tells that finds the first of it. -/
theorem findSome?_eq_of_forall₂ {α : Type} {read : α → Option Address} {told : Entry → Option Address}
    {rows : List α} {routes : List Entry} (h : List.Forall₂ (fun r e => read r = told e) rows routes) :
    rows.findSome? read = routes.findSome? told := by
  induction h with
  | nil => rfl
  | cons head _ ih => rw [List.findSome?_cons, List.findSome?_cons, head, ih]

/-! ### The form of the kernel -/

namespace KernelTable

/-- A row shows a route: its addresses are words, the gateway flag is set if there is a gateway, and the
netmask stands in the eighth column. -/
structure Row.Shows (r : Row) (e : Entry) : Prop where
  /-- The destination. -/
  destination : r.destination = wordOfAddress e.destination
  /-- The gateway, if there is one. -/
  gateway : ∀ a ∈ e.gateway, r.gateway = wordOfAddress a
  /-- The gateway flag. -/
  flag : r.flags.toNat.testBit 1 = e.gateway.isSome
  /-- The netmask, after the four columns that come first and three counts. -/
  netmask : r.further[3]? = some (capitalHexText 8 (wordOfAddress e.netmask).toNat)

theorem Row.Shows.gateway?_eq {r : Row} {e : Entry} (h : r.Shows e) :
    r.gateway? = if e.destination = .any then e.gateway else none := by
  rw [Row.gateway?, h.destination, h.flag]
  simp only [wordOfAddress_eq_zero_iff]
  cases gateway : e.gateway with
  | none => simp
  | some a => simp [h.gateway a gateway, addressOfWord_wordOfAddress]

/-- What is read from the form of the kernel does not depend on the netmasks. -/
theorem gateway?_of_shows {heading : List Char} (h : IsUnbroken heading) {rows : List Row}
    {routes : List Entry} (shows_ : List.Forall₂ Row.Shows rows routes) :
    gateway? (terminated (heading :: rows.map Row.write)) =
      routes.findSome? fun e => if e.destination = .any then e.gateway else none := by
  rw [gateway?_write h]
  exact findSome?_eq_of_forall₂ (shows_.imp fun _ _ => Row.Shows.gateway?_eq)

end KernelTable

/-! ### The printed form -/

namespace PrintedTable

/-- A row shows a route. -/
structure Row.Shows (r : Row) (e : Entry) : Prop where
  /-- The destination. -/
  destination : r.destination = e.destination
  /-- The netmask. -/
  netmask : r.netmask = e.netmask
  /-- The gateway. -/
  gateway : r.gateway = e.gateway

theorem Row.Shows.gateway?_eq {r : Row} {e : Entry} (h : r.Shows e) :
    r.gateway? = if e.IsDefault then e.gateway else none := by
  rw [Row.gateway?, h.destination, h.netmask, h.gateway]
  rfl

/-- From the printed form the gateway of the default route is read. -/
theorem gateway?_of_shows {rows : List Row} {routes : List Entry}
    (shows_ : List.Forall₂ Row.Shows rows routes) :
    gateway? (terminated (rows.map Row.write)) = defaultGateway? routes := by
  rw [gateway?_write]
  exact findSome?_eq_of_forall₂ (shows_.imp fun _ _ => Row.Shows.gateway?_eq)

end PrintedTable

/-! ### Both forms -/

/-- **How the two forms of one table are read.** From the printed form the gateway of the default route is
read. From the form of the kernel the one of the first route is read that has destination `0.0.0.0` and a
gateway; that is the same if the netmask of this route is `0.0.0.0` as well. -/
theorem tables_read {heading : List Char} (h : IsUnbroken heading) {routes : List Entry}
    {kernel : List KernelTable.Row} (kernelShows : List.Forall₂ KernelTable.Row.Shows kernel routes)
    {printed : List PrintedTable.Row}
    (printedShows : List.Forall₂ PrintedTable.Row.Shows printed routes) :
    PrintedTable.gateway? (terminated (printed.map PrintedTable.Row.write)) = defaultGateway? routes ∧
    KernelTable.gateway? (terminated (heading :: kernel.map KernelTable.Row.write)) =
      (firstSeeming? routes).bind Entry.gateway ∧
    ((∀ e ∈ firstSeeming? routes, e.netmask = .any) →
      KernelTable.gateway? (terminated (heading :: kernel.map KernelTable.Row.write)) =
        PrintedTable.gateway? (terminated (printed.map PrintedTable.Row.write))) := by
  have printedReads := PrintedTable.gateway?_of_shows printedShows
  have kernelReads := (KernelTable.gateway?_of_shows h kernelShows).trans (findSome?_any routes)
  refine ⟨printedReads, kernelReads, fun first => ?_⟩
  rw [kernelReads, printedReads, defaultGateway?_eq_of_firstSeeming first]

/-! ### Half of all addresses -/

/-- A route through the tunnel of a private network. -/
def tunnelled (netmask : Address) : Entry := ⟨.any, netmask, some ⟨10, 8, 0, 1⟩⟩

/-- A route through the tunnel, as the kernel shows it. -/
def tunnelRow (netmask : Address) : KernelTable.Row where
  interface := "tun0".toList
  isWord_interface := by decide
  destination := 0
  gateway := KernelTable.wordOfAddress ⟨10, 8, 0, 1⟩
  flags := 3
  further := ["0".toList, "0".toList, "0".toList,
    capitalHexText 8 (KernelTable.wordOfAddress netmask).toNat]
  isUnbroken_further := by
    simp only [List.forall_mem_cons]
    exact ⟨by decide, by decide, by decide, (isWord_capitalHexText _ _).isUnbroken, nofun⟩

theorem tunnelRow_shows (netmask : Address) : (tunnelRow netmask).Shows (tunnelled netmask) := by
  refine ⟨?_, ?_, ?_, rfl⟩
  · exact ((KernelTable.wordOfAddress_eq_zero_iff _).mpr rfl).symm
  · rintro a ⟨⟩
    rfl
  · show (3 : UInt32).toNat.testBit 1 = true
    decide

/-- A route through the tunnel, as Windows prints it. -/
def tunnelPrinted (netmask : Address) : PrintedTable.Row where
  destination := .any
  netmask := netmask
  gateway := some ⟨10, 8, 0, 1⟩
  indent := 10
  netmaskGap := 9
  gatewayGap := 5
  further := [(4, "10.8.0.6".toList), (5, "25".toList)]
  isUnbroken_further := by
    simp only [List.forall_mem_cons]
    exact ⟨by decide, by decide, nofun⟩

theorem tunnelPrinted_shows (netmask : Address) : (tunnelPrinted netmask).Shows (tunnelled netmask) :=
  ⟨rfl, rfl, rfl⟩

/-- A default route is read from both forms. -/
theorem tables_read_tunnelled :
    KernelTable.gateway? (terminated ["Iface".toList, (tunnelRow .any).write]) =
      PrintedTable.gateway? (terminated [(tunnelPrinted .any).write]) := by
  obtain ⟨-, -, agree⟩ := tables_read (show IsUnbroken "Iface".toList by decide)
    (.cons (tunnelRow_shows .any) .nil) (.cons (tunnelPrinted_shows .any) .nil)
  refine agree ?_
  rintro e ⟨⟩
  rfl

/-- A route to half of all addresses, of which virtual private networks make two, is taken for the default
route in the form of the kernel, and is none in the printed form. -/
theorem half_route_taken :
    ¬ ∀ (heading : List Char) (routes : List Entry) (kernel : List KernelTable.Row)
        (printed : List PrintedTable.Row), IsUnbroken heading →
      List.Forall₂ KernelTable.Row.Shows kernel routes →
      List.Forall₂ PrintedTable.Row.Shows printed routes →
      KernelTable.gateway? (terminated (heading :: kernel.map KernelTable.Row.write)) =
        PrintedTable.gateway? (terminated (printed.map PrintedTable.Row.write)) := by
  intro agree
  have unbroken : IsUnbroken "Iface".toList := by decide
  have kernelShows : List.Forall₂ _ _ _ := .cons (tunnelRow_shows ⟨128, 0, 0, 0⟩) .nil
  have printedShows : List.Forall₂ _ _ _ := .cons (tunnelPrinted_shows ⟨128, 0, 0, 0⟩) .nil
  have same := agree _ _ _ _ unbroken kernelShows printedShows
  rw [KernelTable.gateway?_of_shows unbroken kernelShows,
    PrintedTable.gateway?_of_shows printedShows] at same
  revert same
  decide

end PortMap.Route
