import PortMap.Proofs.Ipv4.Number
import PortMap.Proofs.Numeral.Digits
import PortMap.Route.KernelTable

/-!
# The rows of the kernel

A kernel writes a route as a row of columns with a tab between two of them: the interface, the destination
and the gateway as words of eight digits, the flags with four digits or more, and then what else it has to
tell (`Row.write`). The octets of an address stand in a word from the least significant byte on
(`wordOfAddress`).

## What is proved

* `addressOfWord_wordOfAddress` — the word of an address is read as this address.
* `gatewayOfLine_write` — what is read from the line of a row.
* `gateway?_write` — what is read from a table: the gateway of **the first row with destination zero and the
  gateway flag**, whatever its further columns say.
-/

namespace PortMap.Route.KernelTable

open Text

/-! ### Words -/

/-- The word whose least significant byte is the first octet of an address. -/
def wordOfAddress (x : Address) : UInt32 := UInt32.ofNat (Address.toNat ⟨x.d, x.c, x.b, x.a⟩)

theorem toNat_wordOfAddress (x : Address) :
    (wordOfAddress x).toNat = Address.toNat ⟨x.d, x.c, x.b, x.a⟩ :=
  UInt32.toNat_ofNat_of_lt' (Address.toNat_lt _)

/-- The word of an address is read as this address. -/
theorem addressOfWord_wordOfAddress (x : Address) : addressOfWord (wordOfAddress x).toNat = x := by
  have octets := Address.ofNat_toNat ⟨x.d, x.c, x.b, x.a⟩
  rw [← toNat_wordOfAddress, Address.ofNat, Address.mk.injEq] at octets
  obtain ⟨hd, hc, hb, ha⟩ := octets
  rw [addressOfWord, ha, hb, hc, hd]

theorem wordOfAddress_eq_zero_iff (x : Address) : wordOfAddress x = 0 ↔ x = .any := by
  constructor
  · intro zero
    rw [← addressOfWord_wordOfAddress x, zero]
    rfl
  · rintro rfl
    rfl

/-- The gateway flag is the second bit. -/
theorem hasGatewayFlag_natCast (n : Nat) : hasGatewayFlag (n : Int) = n.testBit 1 := by
  rw [hasGatewayFlag, Nat.testBit_eq_decide_div_mod_eq, Bool.beq_eq_decide_eq]
  congr 1
  apply propext
  omega

/-- A word of 32 bits is read as the address in its bytes. -/
theorem readWord?_capitalHexText (width : Nat) (n : UInt32) :
    readWord? (capitalHexText width n.toNat) = some (addressOfWord n.toNat) := by
  have small : n.toNat < 2 ^ 32 := n.toNat_lt
  have bounds : 0 ≤ (n.toNat : Int) ∧ (n.toNat : Int) < 2 ^ 32 := by omega
  rw [readWord?, readHex?_capitalHexText]
  dsimp only
  rw [if_pos bounds, Int.toNat_natCast]

/-- Only zero is written as eight zeros. -/
theorem capitalHexText_eq_zeros_iff (n : Nat) : capitalHexText 8 n = "00000000".toList ↔ n = 0 := by
  constructor
  · intro zeros
    have reads := readHex?_capitalHexText 8 n
    rw [zeros, show readHex? "00000000".toList = some 0 by decide, Option.some.injEq] at reads
    omega
  · rintro rfl
    decide

/-! ### Rows -/

/-- A route as the kernel shows it. -/
structure Row where
  /-- The name of the interface. -/
  interface : List Char
  /-- It is a word. -/
  isWord_interface : IsWord interface
  /-- The destination. -/
  destination : UInt32
  /-- The gateway. -/
  gateway : UInt32
  /-- The flags. -/
  flags : UInt32
  /-- The further columns. -/
  further : List (List Char)
  /-- They stand in the line of the route. -/
  isUnbroken_further : ∀ column ∈ further, IsUnbroken column

namespace Row

/-- Columns, each of them with a tab in front. -/
def tabbed (columns : List (List Char)) : List Char := columns.flatMap ('\t' :: ·)

/-- The line of a row. -/
def write (r : Row) : List Char :=
  r.interface ++ tabbed (capitalHexText 8 r.destination.toNat :: capitalHexText 8 r.gateway.toNat ::
    capitalHexText 4 r.flags.toNat :: r.further)

/-- The gateway that is read from a row. -/
def gateway? (r : Row) : Option Address :=
  if r.destination = 0 ∧ r.flags.toNat.testBit 1 then some (addressOfWord r.gateway.toNat) else none

theorem tabbed_cons (column : List Char) (columns : List (List Char)) :
    tabbed (column :: columns) = '\t' :: (column ++ tabbed columns) := rfl

/-- After a column there is a tab or nothing. -/
theorem separatesWords_head_tabbed (columns : List (List Char)) :
    ∀ c ∈ (tabbed columns).head?, separatesWords c = true := by
  cases columns with
  | nil => simp [tabbed]
  | cons column columns => simp [tabbed_cons, show separatesWords '\t' = true by decide]

theorem words_tabbed_cons {column : List Char} (h : IsWord column) (columns : List (List Char)) :
    words (tabbed (column :: columns)) = column :: words (tabbed columns) := by
  rw [tabbed_cons, words_separator (by decide), words_append h (separatesWords_head_tabbed columns)]

theorem isUnbroken_tabbed {columns : List (List Char)} (h : ∀ column ∈ columns, IsUnbroken column) :
    IsUnbroken (tabbed columns) := by
  induction columns with
  | nil => simp [tabbed, IsUnbroken]
  | cons column columns ih =>
    rw [tabbed_cons]
    refine .cons (by decide) (.append (h column List.mem_cons_self) (ih fun x hx => ?_))
    exact h x (List.mem_cons_of_mem column hx)

/-- The line of a row whose flags are written in another way. -/
def writeWith (flags : List Char) (r : Row) : List Char :=
  r.interface ++ tabbed (capitalHexText 8 r.destination.toNat :: capitalHexText 8 r.gateway.toNat ::
    flags :: r.further)

theorem write_eq (r : Row) : r.write = r.writeWith (capitalHexText 4 r.flags.toNat) := rfl

/-- A row is within a line. -/
theorem isUnbroken_writeWith {flags : List Char} (h : IsWord flags) (r : Row) :
    IsUnbroken (r.writeWith flags) := by
  refine .append r.isWord_interface.isUnbroken (isUnbroken_tabbed fun column hc => ?_)
  simp only [List.mem_cons] at hc
  rcases hc with rfl | rfl | rfl | hc
  · exact (isWord_capitalHexText _ _).isUnbroken
  · exact (isWord_capitalHexText _ _).isUnbroken
  · exact h.isUnbroken
  · exact r.isUnbroken_further column hc

theorem isUnbroken_write (r : Row) : IsUnbroken r.write := by
  rw [write_eq]
  exact r.isUnbroken_writeWith (isWord_capitalHexText _ _)

/-- The words of a row begin with its first four columns. -/
theorem words_writeWith {flags : List Char} (h : IsWord flags) (r : Row) : words (r.writeWith flags) =
    r.interface :: capitalHexText 8 r.destination.toNat :: capitalHexText 8 r.gateway.toNat ::
      flags :: words (tabbed r.further) := by
  rw [writeWith, words_append r.isWord_interface (separatesWords_head_tabbed _),
    words_tabbed_cons (isWord_capitalHexText _ _), words_tabbed_cons (isWord_capitalHexText _ _),
    words_tabbed_cons h]

end Row

/-- What is read from the line of a row whose flags are written in any way. -/
theorem gatewayOfLine_writeWith {flags : List Char} (h : IsWord flags) (r : Row)
    (reads : readHex? flags = some (r.flags.toNat : Int)) :
    gatewayOfLine (r.writeWith flags) = r.gateway? := by
  have flagged : ((readHex? flags).map hasGatewayFlag).getD false = r.flags.toNat.testBit 1 := by
    rw [reads, Option.map_some, Option.getD_some, hasGatewayFlag_natCast]
  rw [gatewayOfLine, r.words_writeWith h]
  dsimp only
  rw [flagged, readWord?_capitalHexText, Row.gateway?]
  -- the destination is compared as it is written
  by_cases zero : r.destination = 0
  · rw [if_neg (by rw [not_not, capitalHexText_eq_zeros_iff, zero]; rfl)]
    simp only [zero, true_and]
  · have word : r.destination.toNat ≠ 0 := fun h => zero (UInt32.toNat_inj.mp h)
    rw [if_pos (mt (capitalHexText_eq_zeros_iff _).mp word), if_neg (fun h => zero h.1)]

/-- What is read from the line of a row. -/
theorem gatewayOfLine_write (r : Row) : gatewayOfLine r.write = r.gateway? := by
  rw [r.write_eq]
  exact gatewayOfLine_writeWith (isWord_capitalHexText _ _) r (readHex?_capitalHexText _ _)

/-- **What is read from a table**: the gateway of the first row with destination zero and the gateway
flag. -/
theorem gateway?_write {heading : List Char} (h : IsUnbroken heading) (rows : List Row) :
    gateway? (terminated (heading :: rows.map Row.write)) = rows.findSome? Row.gateway? := by
  have unbroken : ∀ line ∈ heading :: rows.map Row.write, IsUnbroken line := by
    simp only [List.forall_mem_cons, List.forall_mem_map]
    exact ⟨h, fun r _ => r.isUnbroken_write⟩
  rw [gateway?, lines_terminated unbroken, List.drop_one, List.tail_cons, List.findSome?_map]
  congr 1
  funext r
  exact gatewayOfLine_write r

end PortMap.Route.KernelTable
