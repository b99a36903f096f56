import PortMap.Proofs.Ipv4.RoundTrip
import PortMap.Route.CommandOutput
import PortMap.Route.KernelTable
import PortMap.Route.PrintedTable

/-!
# What the readers of routes go on after

A column of a line may be no numeral, a number may be no word of 32 bits, and a word may be no address. To the
readers of `Route` all of this is a line that names no gateway. This module tells the failures apart: `scan`
looks at one piece after the other, goes on after a failure of a kind that it handles, and ends with any other.
Each reader is told once more by what it looks at and by the kinds that it handles there.

## What is proved

`CommandOutput.search_eq`, `PrintedTable.search_eq`, `KernelTable.search_eq` — **every search comes to an end
without a failure**, and finds what the reader finds.
-/

namespace PortMap.Route

open Text

/-! ### Failures -/

/-- Why a column cannot be read. -/
inductive ColumnFault where
  /-- It is no numeral in base 16. -/
  | numeral
  /-- It is a number, but no word of 32 bits. -/
  | range (n : Int)
  /-- It is no address. -/
  | address (cause : Address.Fault)

/-- The kinds of failures that a search tells apart. -/
inductive ColumnFault.Kind where
  /-- A bad text. -/
  | value
  /-- A number that does not fit. -/
  | packing
  deriving DecidableEq, Repr

/-- The kind of a failure. -/
def ColumnFault.kind : ColumnFault → Kind
  | .numeral | .address _ => .value
  | .range _ => .packing

/-- Looks at one piece after the other until one tells an address. A failure of a kind that is handled leads on
to the next piece, any other is the end. -/
def scan {α : Type} (handled : List ColumnFault.Kind) (look : α → Except ColumnFault (Option Address)) :
    List α → Except ColumnFault (Option Address)
  | [] => .ok none
  | x :: rest =>
    match look x with
    | .ok (some a) => .ok (some a)
    | .ok none => scan handled look rest
    | .error e => if e.kind ∈ handled then scan handled look rest else .error e

/-- A look comes to what is told; where nothing is told it may also fail, in a way that is handled. -/
inductive Settles (handled : List ColumnFault.Kind) :
    Except ColumnFault (Option Address) → Option Address → Prop
  /-- It tells an address, or none. -/
  | told (found : Option Address) : Settles handled (.ok found) found
  /-- It fails. -/
  | failed {e : ColumnFault} (h : e.kind ∈ handled) : Settles handled (.error e) none

/-- **A search that handles whatever it meets ends without a failure**, with the first address that is told. -/
theorem scan_eq {α : Type} {handled : List ColumnFault.Kind}
    {look : α → Except ColumnFault (Option Address)} {tells : α → Option Address}
    (settles : ∀ x, Settles handled (look x) (tells x)) (xs : List α) :
    scan handled look xs = .ok (xs.findSome? tells) := by
  induction xs with
  | nil => rfl
  | cons x xs ih =>
    rw [scan, List.findSome?_cons]
    have settled := settles x
    generalize look x = looked, tells x = found at settled
    cases settled with
    | told found =>
      cases found with
      | none => exact ih
      | some a => rfl
    | failed expected =>
      simp only [if_pos expected]
      exact ih

/-- Reads an address. -/
def readAddress (s : List Char) : Except ColumnFault Address := (Address.read s).mapError .address

/-- A word that is no address is a bad text. -/
theorem settles_readAddress (s : List Char) :
    Settles [.value] ((readAddress s).map some) (Address.read? s) := by
  rw [readAddress, Address.read?]
  cases Address.read s with
  | ok a => exact .told (some a)
  | error e => exact .failed (by simp [ColumnFault.kind])

/-! ### The output of a command -/

namespace CommandOutput

/-- Looks at a word and the next one. -/
def lookAt (pair : List Char × List Char) : Except ColumnFault (Option Address) :=
  if announces pair.1 then (readAddress (pair.2.takeWhile (· != '/'))).map some else .ok none

/-- What a word and the next one tell. -/
def tells (pair : List Char × List Char) : Option Address :=
  if announces pair.1 then addressOfWord? pair.2 else none

/-- Searches a line, in which every word but the last one has a next one. -/
def searchWords (ws : List (List Char)) : Except ColumnFault (Option Address) :=
  scan [.value] lookAt (ws.zip ws.tail)

/-- Searches a text. Between the lines no failure is handled. -/
def search (text : List Char) : Except ColumnFault (Option Address) :=
  scan [] (fun line => searchWords (words line)) (lines text)

theorem settles_lookAt (pair : List Char × List Char) : Settles [.value] (lookAt pair) (tells pair) := by
  unfold lookAt tells
  by_cases keyword : announces pair.1
  · rw [if_pos keyword, if_pos keyword]
    exact settles_readAddress _
  · rw [if_neg keyword, if_neg keyword]
    exact .told none

/-- The first announced address of a line is the one of its first pair that tells one. -/
theorem gatewayOfWords_eq (ws : List (List Char)) :
    gatewayOfWords ws = (ws.zip ws.tail).findSome? tells := by
  induction ws with
  | nil => rfl
  | cons word ws ih =>
    cases ws with
    | nil => rfl
    | cons next rest =>
      rw [gatewayOfWords, ih, List.tail_cons, List.tail_cons]
      by_cases keyword : announces word
      · cases told : addressOfWord? next <;> simp [keyword, told, tells]
      · simp [keyword, tells]

theorem search_eq (text : List Char) : search text = .ok (gateway? text) := by
  apply scan_eq
  intro line
  rw [searchWords, gatewayOfWords_eq, scan_eq settles_lookAt]
  exact .told _

end CommandOutput

/-! ### The printed table -/

namespace PrintedTable

/-- Looks at a line. -/
def lookAt (line : List Char) : Except ColumnFault (Option Address) :=
  match words line with
  | destination :: netmask :: gateway :: _ =>
    if destination = "0.0.0.0".toList ∧ netmask = "0.0.0.0".toList then (readAddress gateway).map some
    else .ok none
  | _ => .ok none

/-- Searches a text. -/
def search (text : List Char) : Except ColumnFault (Option Address) := scan [.value] lookAt (lines text)

theorem settles_lookAt (line : List Char) : Settles [.value] (lookAt line) (gatewayOfLine line) := by
  unfold lookAt gatewayOfLine
  rcases words line with _ | ⟨destination, _ | ⟨netmask, _ | ⟨gateway, further⟩⟩⟩
  · exact .told none
  · exact .told none
  · exact .told none
  · by_cases zeros : destination = "0.0.0.0".toList ∧ netmask = "0.0.0.0".toList
    · simp only [if_pos zeros]
      exact settles_readAddress gateway
    · simp only [if_neg zeros]
      exact .told none

theorem search_eq (text : List Char) : search text = .ok (gateway? text) := scan_eq settles_lookAt _

end PrintedTable

/-! ### The table of the kernel -/

namespace KernelTable

/-- Reads a number in base 16. -/
def readNumber (s : List Char) : Except ColumnFault Int :=
  match readHex? s with
  | some n => .ok n
  | none => .error .numeral

/-- Puts a number into a word of 32 bits, whose bytes are the octets of an address. -/
def pack (n : Int) : Except ColumnFault Address :=
  if 0 ≤ n ∧ n < 2 ^ 32 then .ok (addressOfWord n.toNat) else .error (.range n)

/-- Looks at a line. -/
def lookAt (line : List Char) : Except ColumnFault (Option Address) :=
  match words line with
  | _ :: destination :: gateway :: flags :: _ =>
    if destination ≠ "00000000".toList then .ok none
    else
      match readNumber flags with
      | .error e => .error e
      | .ok f => if hasGatewayFlag f then ((readNumber gateway).bind pack).map some else .ok none
  | _ => .ok none

/-- Searches a text below its first line. Where the octets that are found are taken for an address, by their
text, no failure is handled. -/
def search (text : List Char) : Except ColumnFault (Option Address) :=
  match scan [.value, .packing] lookAt ((lines text).drop 1) with
  | .ok (some a) => (readAddress a.chars).map some
  | r => r

/-- A column that is no word of 32 bits is a bad text, or does not fit. -/
theorem settles_pack (gateway : List Char) :
    Settles [.value, .packing] (((readNumber gateway).bind pack).map some) (readWord? gateway) := by
  rw [readNumber, readWord?]
  cases readHex? gateway with
  | none => exact .failed (by simp [ColumnFault.kind])
  | some n =>
    simp only [Except.bind, pack]
    by_cases bounds : 0 ≤ n ∧ n < 2 ^ 32
    · rw [if_pos bounds, if_pos bounds]
      exact .told _
    · rw [if_neg bounds, if_neg bounds]
      exact .failed (by simp [ColumnFault.kind])

theorem settles_lookAt (line : List Char) :
    Settles [.value, .packing] (lookAt line) (gatewayOfLine line) := by
  unfold lookAt gatewayOfLine
  rcases words line with _ | ⟨interface, _ | ⟨destination, _ | ⟨gateway, _ | ⟨flags, further⟩⟩⟩⟩
  · exact .told none
  · exact .told none
  · exact .told none
  · exact .told none
  · by_cases zeros : destination ≠ "00000000".toList
    · simp only [if_pos zeros]
      exact .told none
    simp only [if_neg zeros, readNumber]
    cases readHex? flags with
    | none => exact .failed (by simp [ColumnFault.kind])
    | some f =>
      simp only [Option.map_some, Option.getD_some]
      by_cases flag : hasGatewayFlag f
      · rw [if_pos flag, if_pos flag]
        exact settles_pack gateway
      · rw [if_neg flag, if_neg flag]
        exact .told none

theorem search_eq (text : List Char) : search text = .ok (gateway? text) := by
  rw [search, scan_eq settles_lookAt, gateway?]
  cases ((lines text).drop 1).findSome? gatewayOfLine with
  | none => rfl
  | some a =>
    simp only [readAddress, Address.read, Address.readFrom_chars]
    rfl

end KernelTable

end PortMap.Route
