import PortMap.Proofs.Ipv4.RoundTrip
import PortMap.Route.PrintedTable

/-!
# The rows of a printed table

Windows prints a route as a row of columns with blanks between them: the destination, the netmask and the
gateway as dotted text, or `On-link` for a route without a gateway, and then what else it has to tell
(`Row.write`).

## What is proved

* `gatewayOfLine_write` — what is read from the line of a row.
* `gateway?_write` — what is read from a table: the gateway of **the first row with destination and netmask
  `0.0.0.0` that has one**.
-/

namespace PortMap.Route.PrintedTable

open Text

/-- A route as Windows prints it: columns with blanks in front. -/
structure Row where
  /-- The destination. -/
  destination : Address
  /-- The netmask. -/
  netmask : Address
  /-- The gateway; without one the destination is on the link. -/
  gateway : Option Address
  /-- The number of blanks before the destination. -/
  indent : Nat
  /-- The number of further blanks before the netmask. -/
  netmaskGap : Nat
  /-- The number of further blanks before the gateway. -/
  gatewayGap : Nat
  /-- The interface, the metric, and what else there may be, each with a number of further blanks. -/
  further : List (Nat × List Char)
  /-- They stand in the line of the route. -/
  isUnbroken_further : ∀ column ∈ further, IsUnbroken column.2

/-- Blanks. -/
def blanks (n : Nat) : List Char := List.replicate n ' '

/-- A column with blanks in front, of which there is one at least. -/
def padded (gap : Nat) (column : List Char) : List Char := blanks (gap + 1) ++ column

/-- The column of a gateway. -/
def gatewayColumn : Option Address → List Char
  | some a => a.chars
  | none => "On-link".toList

namespace Row

/-- The line of a row. -/
def write (r : Row) : List Char :=
  blanks r.indent ++ (r.destination.chars ++ (padded r.netmaskGap r.netmask.chars ++
    (padded r.gatewayGap (gatewayColumn r.gateway) ++
      r.further.flatMap fun column => padded column.1 column.2)))

/-- The gateway that is read from a row. -/
def gateway? (r : Row) : Option Address :=
  if r.destination = .any ∧ r.netmask = .any then r.gateway else none

end Row

theorem isUnbroken_blanks (n : Nat) : IsUnbroken (blanks n) := by
  intro c hc
  rw [List.eq_of_mem_replicate hc]
  decide

theorem isUnbroken_padded (gap : Nat) {column : List Char} (h : IsUnbroken column) :
    IsUnbroken (padded gap column) := (isUnbroken_blanks _).append h

theorem words_blanks (n : Nat) (rest : List Char) : words (blanks n ++ rest) = words rest := by
  refine words_separators (fun c hc => ?_) rest
  rw [List.eq_of_mem_replicate hc]
  decide

/-- A column with blanks in front comes first. -/
theorem words_padded (gap : Nat) {column rest : List Char} (h : IsWord column)
    (hr : ∀ c ∈ rest.head?, separatesWords c = true) :
    words (padded gap column ++ rest) = column :: words rest := by
  rw [padded, List.append_assoc, words_blanks, words_append h hr]

theorem separatesWords_head_padded (gap : Nat) (column rest : List Char) :
    ∀ c ∈ (padded gap column ++ rest).head?, separatesWords c = true := by
  intro c hc
  cases hc
  decide

theorem separatesWords_head_further (further : List (Nat × List Char)) :
    ∀ c ∈ (further.flatMap fun column => padded column.1 column.2).head?, separatesWords c = true := by
  cases further with
  | nil => exact fun c hc => nomatch hc
  | cons column further => exact separatesWords_head_padded column.1 column.2 _

theorem isWord_gatewayColumn (gateway : Option Address) : IsWord (gatewayColumn gateway) := by
  cases gateway with
  | none => exact (by decide : IsWord "On-link".toList)
  | some a => exact a.isWord_chars

theorem read?_gatewayColumn (gateway : Option Address) :
    Address.read? (gatewayColumn gateway) = gateway := by
  cases gateway with
  | none => rfl
  | some a => exact a.read?_chars

/-- Only one address is written as all zeros. -/
theorem chars_eq_zeros_iff (x : Address) : x.chars = "0.0.0.0".toList ↔ x = .any := by
  constructor
  · intro zeros
    have reads := x.read?_chars
    rw [zeros, show Address.read? "0.0.0.0".toList = some .any by decide, Option.some.injEq] at reads
    exact reads.symm
  · rintro rfl
    decide

namespace Row

/-- A row is within a line. -/
theorem isUnbroken_write (r : Row) : IsUnbroken r.write := by
  refine (isUnbroken_blanks _).append (r.destination.isWord_chars.isUnbroken.append ?_)
  refine (isUnbroken_padded _ r.netmask.isWord_chars.isUnbroken).append ?_
  refine (isUnbroken_padded _ (isWord_gatewayColumn _).isUnbroken).append fun c hc => ?_
  obtain ⟨column, further, hc⟩ := List.mem_flatMap.mp hc
  exact isUnbroken_padded _ (r.isUnbroken_further column further) c hc

/-- The words of a row begin with its first three columns. -/
theorem words_write (r : Row) : words r.write =
    r.destination.chars :: r.netmask.chars :: gatewayColumn r.gateway ::
      words (r.further.flatMap fun column => padded column.1 column.2) := by
  rw [write, words_blanks,
    words_append r.destination.isWord_chars (separatesWords_head_padded _ _ _),
    words_padded _ r.netmask.isWord_chars (separatesWords_head_padded _ _ _),
    words_padded _ (isWord_gatewayColumn _) (separatesWords_head_further _)]

end Row

/-- What is read from the line of a row. -/
theorem gatewayOfLine_write (r : Row) : gatewayOfLine r.write = r.gateway? := by
  rw [gatewayOfLine, r.words_write]
  simp only [chars_eq_zeros_iff, read?_gatewayColumn]
  rfl

/-- **What is read from a table**: the gateway of the first row with destination and netmask `0.0.0.0` that
has one. -/
theorem gateway?_write (rows : List Row) :
    gateway? (terminated (rows.map Row.write)) = rows.findSome? Row.gateway? := by
  have unbroken : ∀ line ∈ rows.map Row.write, IsUnbroken line :=
    List.forall_mem_map.mpr fun r _ => r.isUnbroken_write
  rw [gateway?, lines_terminated unbroken, List.findSome?_map]
  congr 1
  funext r
  exact gatewayOfLine_write r

end PortMap.Route.PrintedTable
