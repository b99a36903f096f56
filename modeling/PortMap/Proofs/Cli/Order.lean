import Mathlib.Logic.Basic
import PortMap.Cli.Order

/-!
# The words of a command

What the words after a command have to be for the command to be carried out. A port is a whole numeral of at
most 16 bits, a lifetime one of at most 32, and a protocol is named in letters of any case; the second port
may be left out, and is then zero.

## What is proved

* `Order.ofWords_eq_ok_iff` — **a command is accepted exactly of such words** (`Order.Reads`), and with the
  values that they say.
* `Order.Reads.fits` — so every number of a command fits its field in a request.
-/

namespace PortMap.Cli

open Wire

/-! ### Values -/

/-- A text is a numeral of a whole number within limits. -/
def IsNumeral (high : Nat) (s : String) (n : Int) : Prop := readInt? s.toList = some n ∧ 0 ≤ n ∧ n ≤ high

/-- A text is the name of a protocol, in any case of letters. -/
def IsProtocolName (s : String) (p : Protocol) : Prop := String.ofList (s.toList.map Char.toLower) = p.name

theorem readWithin_eq_ok_iff {high : Nat} {s : String} {n : Int} :
    readWithin 0 high s = .ok n ↔ IsNumeral high s n := by
  unfold readWithin IsNumeral
  cases readInt? s.toList with
  | none => simp
  | some k =>
    simp only [Option.some.injEq]
    split <;> simp only [Except.ok.injEq, false_iff, reduceCtorEq] <;> omega

theorem readProtocol_eq_ok_iff {s : String} {p : Protocol} :
    readProtocol s = .ok p ↔ IsProtocolName s p := by
  unfold readProtocol IsProtocolName
  have udp : (Protocol.udp).name = "udp" := rfl
  have tcp : (Protocol.tcp).name = "tcp" := rfl
  dsimp only
  generalize String.ofList (s.toList.map Char.toLower) = word
  split
  · rename_i isUdp
    cases p <;> simp [isUdp, udp, tcp]
  · rename_i notUdp
    split
    · rename_i isTcp
      cases p <;> simp [isTcp, udp, tcp]
    · rename_i notTcp
      cases p <;> simp [notUdp, notTcp, udp, tcp]

/-! ### Arguments -/

theorem bind_eq_ok_iff {α β : Type} {x : Except Misuse α} {f : α → Except Misuse β} {b : β} :
    (x >>= f) = .ok b ↔ ∃ a, x = .ok a ∧ f a = .ok b := by
  cases x <;> simp [bind, Except.bind]

theorem argument_eq_ok_iff {α : Type} {a : Argument} {read : String → Except BadValue α}
    {word : Option String} {x : α} : Order.argument a read word = .ok x ↔ ∃ s, word = some s ∧ read s = .ok x := by
  unfold Order.argument
  cases word with
  | none => simp
  | some s =>
    simp only [Option.some.injEq, exists_eq_left']
    cases read s <;> simp

namespace Order

/-- The lifetime among the options of a command, if it was given; the last one counts. -/
def LifetimeGiven (raw : List (CommandOption × Given)) : Option Int → Prop
  | none => ∀ s, lastGiven raw .lifetime ≠ some (.value s)
  | some n => ∃ s, lastGiven raw .lifetime = some (.value s) ∧ IsNumeral (2 ^ 32 - 1) s n

theorem lifetime_eq_ok_iff {c : Command} {raw : List (CommandOption × Given)} {l : Option Int} :
    lifetime c raw = .ok l ↔ LifetimeGiven raw l := by
  unfold lifetime
  split
  · rename_i s given
    have text {n : Int} : readLifetime s = .ok n ↔ IsNumeral (2 ^ 32 - 1) s n := readWithin_eq_ok_iff
    cases l with
    | none =>
      refine iff_of_false ?_ fun h => h s given
      split <;> nofun
    | some n =>
      simp only [LifetimeGiven, given, Option.some.injEq, Given.value.injEq, exists_eq_left', ← text]
      cases readLifetime s <;> simp
  · rename_i notGiven
    cases l with
    | none => exact iff_of_true rfl fun s => notGiven s
    | some n =>
      refine iff_of_false nofun ?_
      rintro ⟨s, given, -⟩
      exact notGiven s given

/-- What the options and arguments of a command say. -/
inductive Reads (raw : List (CommandOption × Given)) : Command → List String → Order → Prop
  /-- The public address needs nothing more. -/
  | address {l : Option Int} : LifetimeGiven raw l → Reads raw .address [] .address
  /-- The default gateway needs nothing more. -/
  | gateway {l : Option Int} : LifetimeGiven raw l → Reads raw .gateway [] .gateway
  /-- A mapping needs a protocol and a port. The port of the gateway is left to it, … -/
  | map {l : Option Int} {protocol privatePort : String} {p : Protocol} {a : Int} : LifetimeGiven raw l →
      IsProtocolName protocol p → IsNumeral (2 ^ 16 - 1) privatePort a →
      Reads raw .map [protocol, privatePort] (.map p a 0 l)
  /-- … or it is suggested. -/
  | mapTo {l : Option Int} {protocol privatePort publicPort : String} {p : Protocol} {a b : Int} :
      LifetimeGiven raw l → IsProtocolName protocol p → IsNumeral (2 ^ 16 - 1) privatePort a →
      IsNumeral (2 ^ 16 - 1) publicPort b →
      Reads raw .map [protocol, privatePort, publicPort] (.map p a b l)
  /-- A mapping is deleted by its protocol and its port. -/
  | unmap {l : Option Int} {protocol privatePort : String} {p : Protocol} {a : Int} : LifetimeGiven raw l →
      IsProtocolName protocol p → IsNumeral (2 ^ 16 - 1) privatePort a →
      Reads raw .unmap [protocol, privatePort] (.unmap p a)

variable {raw : List (CommandOption × Given)} {c : Command} {words : List String} {o : Order}

/-- The numbers of a command fit the fields of a request. -/
def Fits : Order → Prop
  | .address | .gateway => True
  | .map _ a b l => (0 ≤ a ∧ a ≤ 65535) ∧ (0 ≤ b ∧ b ≤ 65535) ∧ ∀ n ∈ l, 0 ≤ n ∧ n ≤ 4294967295
  | .unmap _ a => 0 ≤ a ∧ a ≤ 65535

theorem Reads.fits (h : Reads raw c words o) : o.Fits := by
  have lifetime {l : Option Int} (given : LifetimeGiven raw l) : ∀ n ∈ l, 0 ≤ n ∧ n ≤ 4294967295 := by
    rintro n rfl
    obtain ⟨s, -, -, least, most⟩ := given
    exact ⟨least, most⟩
  cases h with
  | address | gateway => trivial
  | map given _ privatePort => exact ⟨privatePort.2, by decide, lifetime given⟩
  | mapTo given _ privatePort publicPort => exact ⟨privatePort.2, publicPort.2, lifetime given⟩
  | unmap _ _ privatePort => exact privatePort.2

theorem readPort_zero {b : Int} : readPort "0" = .ok b ↔ b = 0 := by
  have zero : readPort "0" = .ok 0 := rfl
  rw [zero, Except.ok.injEq, eq_comm]

/-- What the parts of a command are read as is what its words say. -/
theorem reads_of_ofParts (made : ofParts c raw words = .ok o) (short : words.length ≤ c.arguments.length) :
    Reads raw c words o := by
  obtain ⟨l, given, parts⟩ := bind_eq_ok_iff.mp made
  rw [lifetime_eq_ok_iff] at given
  cases c with
  | address =>
    cases parts
    rw [List.length_eq_zero_iff.mp (Nat.le_zero.mp short)]
    exact .address given
  | gateway =>
    cases parts
    rw [List.length_eq_zero_iff.mp (Nat.le_zero.mp short)]
    exact .gateway given
  | map =>
    simp only [bind_eq_ok_iff, argument_eq_ok_iff, readProtocol_eq_ok_iff] at parts
    obtain ⟨p, ⟨w₁, h₁, protocol⟩, a, ⟨w₂, h₂, privatePort⟩, b, ⟨w₃, h₃, publicPort⟩, made⟩ := parts
    cases made
    -- two words, or three
    rcases words with _ | ⟨x, _ | ⟨y, _ | ⟨z, _ | ⟨more, rest⟩⟩⟩⟩
    · cases h₁
    · cases h₂
    · cases h₁
      cases h₂
      cases h₃
      rw [readPort_zero.mp publicPort]
      exact .map given protocol (readWithin_eq_ok_iff.mp privatePort)
    · cases h₁
      cases h₂
      cases h₃
      exact .mapTo given protocol (readWithin_eq_ok_iff.mp privatePort) (readWithin_eq_ok_iff.mp publicPort)
    · have four : rest.length + 4 ≤ 3 := short
      omega
  | unmap =>
    simp only [bind_eq_ok_iff, argument_eq_ok_iff, readProtocol_eq_ok_iff] at parts
    obtain ⟨p, ⟨w₁, h₁, protocol⟩, a, ⟨w₂, h₂, privatePort⟩, made⟩ := parts
    cases made
    rcases words with _ | ⟨x, _ | ⟨y, _ | ⟨more, rest⟩⟩⟩
    · cases h₁
    · cases h₂
    · cases h₁
      cases h₂
      exact .unmap given protocol (readWithin_eq_ok_iff.mp privatePort)
    · have three : rest.length + 3 ≤ 2 := short
      omega

/-- Words that say what a command needs are read so, and are not too many. -/
theorem Reads.ofParts (reads : Reads raw c words o) :
    ofParts c raw words = .ok o ∧ words.length ≤ c.arguments.length := by
  cases reads with
  | address given | gateway given =>
    exact ⟨bind_eq_ok_iff.mpr ⟨_, lifetime_eq_ok_iff.mpr given, rfl⟩, Nat.le_refl _⟩
  | map given protocol privatePort =>
    refine ⟨bind_eq_ok_iff.mpr ⟨_, lifetime_eq_ok_iff.mpr given, ?_⟩, Nat.le_succ 2⟩
    simp only [bind_eq_ok_iff, argument_eq_ok_iff, readProtocol_eq_ok_iff]
    exact ⟨_, ⟨_, rfl, protocol⟩, _, ⟨_, rfl, readWithin_eq_ok_iff.mpr privatePort⟩, 0,
      ⟨_, rfl, readPort_zero.mpr rfl⟩, rfl⟩
  | mapTo given protocol privatePort publicPort =>
    refine ⟨bind_eq_ok_iff.mpr ⟨_, lifetime_eq_ok_iff.mpr given, ?_⟩, Nat.le_refl 3⟩
    simp only [bind_eq_ok_iff, argument_eq_ok_iff, readProtocol_eq_ok_iff]
    exact ⟨_, ⟨_, rfl, protocol⟩, _, ⟨_, rfl, readWithin_eq_ok_iff.mpr privatePort⟩, _,
      ⟨_, rfl, readWithin_eq_ok_iff.mpr publicPort⟩, rfl⟩
  | unmap given protocol privatePort =>
    refine ⟨bind_eq_ok_iff.mpr ⟨_, lifetime_eq_ok_iff.mpr given, ?_⟩, Nat.le_refl 2⟩
    simp only [bind_eq_ok_iff, argument_eq_ok_iff, readProtocol_eq_ok_iff]
    exact ⟨_, ⟨_, rfl, protocol⟩, _, ⟨_, rfl, readWithin_eq_ok_iff.mpr privatePort⟩, rfl⟩

/-- **A command is accepted exactly of words that say what it needs.** -/
theorem ofWords_eq_ok_iff :
    ofWords c words = .ok (.proceed o) ↔ ∃ raw arguments,
      Words.split c.spellings true words = .ok (raw, arguments) ∧ timesGiven raw .help = 0 ∧
        Reads raw c arguments o := by
  unfold ofWords
  split
  · rename_i refused
    simp [refused]
  · rename_i raw arguments parts
    constructor
    · intro accepted
      split at accepted
      · cases accepted
      · rename_i noHelp
        split at accepted
        · cases accepted
        · rename_i order made
          dsimp only at accepted
          split at accepted
          · rename_i noMore
            cases accepted
            have short : arguments.length ≤ c.arguments.length :=
              List.drop_eq_nil_iff.mp (List.isEmpty_iff.mp noMore)
            exact ⟨raw, arguments, parts, not_not.mp noHelp, reads_of_ofParts made short⟩
          · cases accepted
    · rintro ⟨raw', arguments', same, noHelp, reads⟩
      cases parts.symm.trans same
      obtain ⟨made, short⟩ := reads.ofParts
      have noMore : (arguments.drop c.arguments.length).isEmpty = true :=
        List.isEmpty_iff.mpr (List.drop_eq_nil_iff.mpr short)
      rw [if_neg (not_not.mpr noHelp), made]
      exact if_pos noMore

end Order

end PortMap.Cli
