import PortMap.Proofs.Wire.Field
import PortMap.Session.Basic
import Mathlib.Tactic.SplitIfs

/-!
# Requests read back

A mapping request is made from values of any kind (`Session.mappingRequest`) and read from a message
with any bytes (`Request.decode`). This module shows how far the two are inverse to each other.

* `decode_eq_mapping_iff` — a message reads as a mapping request exactly if it begins with the message of
  that request, whatever its reserved bytes are and whatever follows. Everything below comes from this.
* `fieldNumber_eq_ok_iff`, `fieldNumber_eq_error_iff` — which values fit a field, and why others do not.
* `mappingRequest_roundTrip` — both together: the values that are accepted, the cause of a refusal, and
  the round trip in both directions.
-/

namespace PortMap.Value

/-- A value is a whole number between zero and the largest one given. -/
def IsWholeUpTo (largest : Nat) (v : Value) : Prop :=
  ∃ n : Int, v.wholeNumber? = some n ∧ 0 ≤ n ∧ n ≤ largest

end PortMap.Value

namespace PortMap.Wire

open Session

/-! ### Messages -/

/-- The part of a message that a mapping request is read from, with its reserved bytes cleared. -/
def unreserved (d : Bytes) : Bytes := d.take 2 ++ [0, 0] ++ (d.take 12).drop 4

theorem unreserved_eq {d : Bytes} (h : 12 ≤ d.length) :
    unreserved d = [get8 d 0, get8 d 1, 0, 0] ++ [get8 d 4, get8 d 5] ++ [get8 d 6, get8 d 7]
      ++ [get8 d 8, get8 d 9, get8 d 10, get8 d 11] := by
  unfold unreserved
  rw [take_eq_map_get8 h, take_eq_map_get8 (show 2 ≤ d.length by omega)]
  rfl

theorem length_unreserved_eq_iff (d : Bytes) : (unreserved d).length = 12 ↔ 12 ≤ d.length := by
  simp only [unreserved, List.length_append, List.length_take, List.length_drop, List.length_cons,
    List.length_nil]
  omega

theorem unreserved_append {d : Bytes} (h : 12 ≤ d.length) (rest : Bytes) :
    unreserved (d ++ rest) = unreserved d := by
  unfold unreserved
  rw [List.take_append_of_le_length h, List.take_append_of_le_length (by omega)]

theorem length_encode_mapping (p : Protocol) (a b : UInt16) (l : UInt32) :
    (Request.mapping p a b l).encode.length = 12 := rfl

theorem unreserved_encode (p : Protocol) (a b : UInt16) (l : UInt32) :
    unreserved (Request.mapping p a b l).encode = (Request.mapping p a b l).encode := rfl

/-- A message is the one of a mapping request, but for its reserved bytes and its end, if its fields
hold what is asked for. -/
theorem unreserved_eq_encode_iff (d : Bytes) (p : Protocol) (a b : UInt16) (l : UInt32) :
    unreserved d = (Request.mapping p a b l).encode ↔
      12 ≤ d.length ∧ get8 d 0 = version ∧ get8 d 1 = p.opcode ∧ get16 d 4 = a.toNat ∧
        get16 d 6 = b.toNat ∧ get32 d 8 = l.toNat := by
  by_cases h : 12 ≤ d.length
  · rw [unreserved_eq h, ← put16_eq_iff a.toNat_lt, ← put16_eq_iff b.toNat_lt,
      ← put32_eq_iff l.toNat_lt]
    simp only [Request.encode, put16, put32, List.cons_append, List.nil_append, List.cons.injEq,
      and_true, h, true_and]
    constructor
    · rintro ⟨h₀, h₁, h₄, h₅, h₆, h₇, h₈, h₉, h₁₀, h₁₁⟩
      exact ⟨h₀, h₁, ⟨h₄.symm, h₅.symm⟩, ⟨h₆.symm, h₇.symm⟩, h₈.symm, h₉.symm, h₁₀.symm, h₁₁.symm⟩
    · rintro ⟨h₀, h₁, ⟨h₄, h₅⟩, ⟨h₆, h₇⟩, h₈, h₉, h₁₀, h₁₁⟩
      exact ⟨h₀, h₁, h₄.symm, h₅.symm, h₆.symm, h₇.symm, h₈.symm, h₉.symm, h₁₀.symm, h₁₁.symm⟩
  · refine iff_of_false (fun e => h ?_) fun e => h e.1
    rw [← length_unreserved_eq_iff, e, length_encode_mapping]

/-! ### Reading -/

/-- A message reads as the question for the public address exactly if it begins with that question. -/
theorem decode_eq_publicAddress_iff (d : Bytes) :
    Request.decode d = .ok .publicAddress ↔ Request.publicAddress.encode <+: d := by
  have prefix_iff : Request.publicAddress.encode <+: d ↔
      2 ≤ d.length ∧ get8 d 0 = version ∧ get8 d 1 = 0 := by
    rcases d with _ | ⟨x, _ | ⟨y, d⟩⟩
    · simp [Request.encode]
    · simp [Request.encode]
    · simp [Request.encode, eq_comm (a := version), eq_comm (a := (0 : UInt8))]
  rw [prefix_iff]
  unfold Request.decode
  grind

/-- **A message reads as a mapping request exactly if it is the message of that request**, but for its
reserved bytes and whatever follows. -/
theorem decode_eq_mapping_iff (d : Bytes) (p : Protocol) (a b : UInt16) (l : UInt32) :
    Request.decode d = .ok (.mapping p a b l) ↔ unreserved d = (Request.mapping p a b l).encode := by
  rw [unreserved_eq_encode_iff]
  have ha := ofNat_get16_eq_iff d 4 a
  have hb := ofNat_get16_eq_iff d 6 b
  have hl := ofNat_get32_eq_iff d 8 l
  unfold Request.decode
  cases p <;> simp only [Protocol.opcode] <;> grind

/-- Whatever follows the message of a request, it reads as that request. -/
theorem Request.decode_encode_append (r : Request) (rest : Bytes) :
    Request.decode (r.encode ++ rest) = .ok r := by
  cases r with
  | publicAddress => exact (decode_eq_publicAddress_iff _).mpr (List.prefix_append _ _)
  | mapping p x y z =>
    rw [decode_eq_mapping_iff, unreserved_append (Nat.le_of_eq rfl), unreserved_encode]

theorem encode_mapping_inj {p p' : Protocol} {a a' b b' : UInt16} {l l' : UInt32}
    (h : (Request.mapping p a b l).encode = (Request.mapping p' a' b' l').encode) :
    p = p' ∧ a = a' ∧ b = b' ∧ l = l' := by
  have read : Request.decode (Request.mapping p a b l).encode = .ok (.mapping p' a' b' l') := by
    rw [decode_eq_mapping_iff, unreserved_encode, h]
  rw [(decode_eq_mapping_iff _ p a b l).mpr (unreserved_encode p a b l)] at read
  simpa using read

/-! ### Values for fields -/

/-- A value does not fit a field, for the cause given. -/
inductive Misfit (width : Width) (v : Value) : FieldFault → Prop
  /-- It is no whole number. -/
  | notWhole : v.wholeNumber? = none → Misfit width v .notWhole
  /-- It is negative, or has more than 64 bits. -/
  | outOfRange {n : Int} : v.wholeNumber? = some n → n < 0 ∨ 2 ^ 64 ≤ n → Misfit width v .outOfRange
  /-- It has at most 64 bits, but too many for the field. -/
  | tooLarge {n : Int} : v.wholeNumber? = some n → width.largest < n → n < 2 ^ 64 →
      Misfit width v (.tooLarge width)

theorem largest_lt (width : Width) : width.largest < 2 ^ 64 := by cases width <;> decide

theorem fieldNumber_eq_ok_iff (width : Width) (v : Value) (n : Nat) :
    fieldNumber width v = .ok n ↔ v.wholeNumber? = some (n : Int) ∧ n ≤ width.largest := by
  have := largest_lt width
  unfold fieldNumber
  cases v.wholeNumber? with
  | none => simp
  | some k =>
    simp only [Option.some.injEq]
    split_ifs <;> simp only [Except.ok.injEq, false_iff] <;> omega

theorem fieldNumber_eq_error_iff (width : Width) (v : Value) (e : FieldFault) :
    fieldNumber width v = .error e ↔ Misfit width v e := by
  have := largest_lt width
  unfold fieldNumber
  constructor
  · intro h
    cases hv : v.wholeNumber? with
    | none => rw [hv] at h; cases h; exact .notWhole hv
    | some k =>
      rw [hv] at h
      simp only at h
      split_ifs at h with h₁ h₂ <;> cases h
      · exact .outOfRange hv h₁
      · exact .tooLarge hv h₂ (by omega)
  · rintro (hv | @⟨n, hv, h⟩ | @⟨n, hv, h, h'⟩)
    · rw [hv]
    · simp only [hv, if_pos h]
    · have inRange : ¬ (n < 0 ∨ 2 ^ 64 ≤ n) := by omega
      simp only [hv, if_neg inRange, if_pos h]

theorem exists_fieldNumber_iff (width : Width) (v : Value) :
    (∃ n, fieldNumber width v = .ok n) ↔ v.IsWholeUpTo width.largest := by
  simp only [fieldNumber_eq_ok_iff]
  constructor
  · rintro ⟨n, hv, hn⟩
    exact ⟨n, hv, by omega, by omega⟩
  · rintro ⟨n, hv, h₀, hn⟩
    exact ⟨n.toNat, by rw [hv, Int.toNat_of_nonneg h₀], by omega⟩

theorem isWholeUpTo_short_iff (v : Value) : v.IsWholeUpTo 65535 ↔ ∃ n, fieldNumber .short v = .ok n :=
  (exists_fieldNumber_iff .short v).symm

theorem isWholeUpTo_long_iff (v : Value) :
    v.IsWholeUpTo 4294967295 ↔ ∃ n, fieldNumber .long v = .ok n :=
  (exists_fieldNumber_iff .long v).symm

theorem fieldNumber_short {v : Value} {x : UInt16} (h : v.wholeNumber? = some (x.toNat : Int)) :
    fieldNumber .short v = .ok x.toNat :=
  (fieldNumber_eq_ok_iff _ _ _).mpr ⟨h, Nat.le_of_lt_succ x.toNat_lt⟩

theorem fieldNumber_long {v : Value} {z : UInt32} (h : v.wholeNumber? = some (z.toNat : Int)) :
    fieldNumber .long v = .ok z.toNat :=
  (fieldNumber_eq_ok_iff _ _ _).mpr ⟨h, Nat.le_of_lt_succ z.toNat_lt⟩

theorem wholeNumber_of_short {v : Value} {n : Nat} (h : fieldNumber .short v = .ok n) :
    v.wholeNumber? = some ((UInt16.ofNat n).toNat : Int) := by
  obtain ⟨hv, hn⟩ := (fieldNumber_eq_ok_iff _ _ _).mp h
  rw [hv, UInt16.toNat_ofNat_of_lt' (Nat.lt_succ_of_le hn)]

theorem wholeNumber_of_long {v : Value} {n : Nat} (h : fieldNumber .long v = .ok n) :
    v.wholeNumber? = some ((UInt32.ofNat n).toNat : Int) := by
  obtain ⟨hv, hn⟩ := (fieldNumber_eq_ok_iff _ _ _).mp h
  rw [hv, UInt32.toNat_ofNat_of_lt' (Nat.lt_succ_of_le hn)]

/-! ### Requests from values -/

/-- The leftmost of the values for a request that does not fit its field, by the cause of it. -/
def LeftmostMisfit (a b l : Value) (e : FieldFault) : Prop :=
  Misfit .short a e ∨
    a.IsWholeUpTo 65535 ∧ Misfit .short b e ∨
    a.IsWholeUpTo 65535 ∧ b.IsWholeUpTo 65535 ∧ Misfit .long l e

/-- The message of a request holds the numbers that the values count as. -/
theorem mappingRequest_eq_ok_iff (c : ProtocolChoice) (a b l : Value) (d : Bytes) :
    mappingRequest c a b l = .ok d ↔
      ∃ (x y : UInt16) (z : UInt32), a.wholeNumber? = some (x.toNat : Int) ∧
        b.wholeNumber? = some (y.toNat : Int) ∧ l.wholeNumber? = some (z.toNat : Int) ∧
        d = (Request.mapping c.sent x y z).encode := by
  unfold mappingRequest Request.ofArguments
  constructor
  · intro h
    cases ha : fieldNumber .short a with
    | error e => simp [ha] at h
    | ok x =>
      cases hb : fieldNumber .short b with
      | error e => simp [ha, hb] at h
      | ok y =>
        cases hl : fieldNumber .long l with
        | error e => simp [ha, hb, hl] at h
        | ok z =>
          simp only [ha, hb, hl, Except.ok.injEq] at h
          exact ⟨.ofNat x, .ofNat y, .ofNat z, wholeNumber_of_short ha, wholeNumber_of_short hb,
            wholeNumber_of_long hl, h.symm⟩
  · rintro ⟨x, y, z, ha, hb, hl, rfl⟩
    simp [fieldNumber_short ha, fieldNumber_short hb, fieldNumber_long hl]

/-- A request is refused for the leftmost value that does not fit. -/
theorem mappingRequest_eq_error_iff (c : ProtocolChoice) (a b l : Value) (f : Fault) :
    mappingRequest c a b l = .error f ↔ ∃ e, f = .field e ∧ LeftmostMisfit a b l e := by
  simp only [LeftmostMisfit, isWholeUpTo_short_iff, ← fieldNumber_eq_error_iff]
  unfold mappingRequest Request.ofArguments
  cases fieldNumber .short a with
  | error e => simp [eq_comm]
  | ok x =>
    cases fieldNumber .short b with
    | error e => simp [eq_comm]
    | ok y =>
      cases fieldNumber .long l with
      | error e => simp [eq_comm]
      | ok z => simp

theorem exists_mappingRequest_iff (c : ProtocolChoice) (a b l : Value) :
    (∃ d, mappingRequest c a b l = .ok d) ↔
      a.IsWholeUpTo 65535 ∧ b.IsWholeUpTo 65535 ∧ l.IsWholeUpTo 4294967295 := by
  simp only [isWholeUpTo_short_iff, isWholeUpTo_long_iff]
  unfold mappingRequest Request.ofArguments
  cases fieldNumber .short a <;> cases fieldNumber .short b <;> cases fieldNumber .long l <;> simp

/-- The message of a request has twelve bytes and reads as the numbers that the values count as, whatever
follows. -/
theorem decode_of_mappingRequest {p : Protocol} {a b l : Value} {d : Bytes}
    (h : mappingRequest (.known p) a b l = .ok d) :
    d.length = 12 ∧ ∃ (x y : UInt16) (z : UInt32), a.wholeNumber? = some (x.toNat : Int) ∧
      b.wholeNumber? = some (y.toNat : Int) ∧ l.wholeNumber? = some (z.toNat : Int) ∧
      ∀ rest, Request.decode (d ++ rest) = .ok (.mapping p x y z) := by
  obtain ⟨x, y, z, ha, hb, hl, rfl⟩ := (mappingRequest_eq_ok_iff _ a b l d).mp h
  exact ⟨rfl, x, y, z, ha, hb, hl, Request.decode_encode_append _⟩

/-- What reads as a mapping request is made of its numbers again, up to the reserved bytes and the end. -/
theorem mappingRequest_of_decode {d : Bytes} {p : Protocol} {x y : UInt16} {z : UInt32}
    (h : Request.decode d = .ok (.mapping p x y z)) :
    mappingRequest (.known p) (.whole x.toNat) (.whole y.toNat) (.whole z.toNat) =
      .ok (unreserved d) := by
  rw [mappingRequest_eq_ok_iff]
  exact ⟨x, y, z, rfl, rfl, rfl, (decode_eq_mapping_iff d p x y z).mp h⟩

/-- No message is made of two requests. -/
theorem mappingRequest_inj {p p' : Protocol} {a b l a' b' l' : Value} {d : Bytes}
    (h : mappingRequest (.known p) a b l = .ok d) (h' : mappingRequest (.known p') a' b' l' = .ok d) :
    p = p' ∧ a.wholeNumber? = a'.wholeNumber? ∧ b.wholeNumber? = b'.wholeNumber? ∧
      l.wholeNumber? = l'.wholeNumber? := by
  obtain ⟨x, y, z, ha, hb, hl, rfl⟩ := (mappingRequest_eq_ok_iff _ a b l d).mp h
  obtain ⟨x', y', z', ha', hb', hl', e⟩ := (mappingRequest_eq_ok_iff _ a' b' l' _).mp h'
  obtain ⟨hp, rfl, rfl, rfl⟩ := encode_mapping_inj e
  exact ⟨hp, ha.trans ha'.symm, hb.trans hb'.symm, hl.trans hl'.symm⟩

/-- A message can be read exactly if it begins with one that is made, up to the reserved bytes. -/
theorem exists_decode_iff (d : Bytes) :
    (∃ r, Request.decode d = .ok r) ↔ Request.publicAddress.encode <+: d ∨
      ∃ p a b l, mappingRequest (.known p) a b l = .ok (unreserved d) := by
  constructor
  · rintro ⟨_ | ⟨p, x, y, z⟩, h⟩
    · exact .inl ((decode_eq_publicAddress_iff d).mp h)
    · exact .inr ⟨p, _, _, _, mappingRequest_of_decode h⟩
  · rintro (h | ⟨p, a, b, l, h⟩)
    · exact ⟨_, (decode_eq_publicAddress_iff d).mpr h⟩
    · obtain ⟨x, y, z, -, -, -, e⟩ := (mappingRequest_eq_ok_iff _ a b l _).mp h
      exact ⟨_, (decode_eq_mapping_iff d p x y z).mpr e⟩

/-- **Requests and their messages correspond.** A mapping request is made exactly of whole numbers that
fit, and refused for the leftmost value that does not; its message has twelve bytes and reads as the
request, whatever follows. A message that reads as a mapping request is the one that is made of its
numbers, up to the reserved bytes and the end, and one that reads as the question for the public address
begins with that question. So no message is made of two requests, and a message can be read exactly if
it begins with one that is made, up to the reserved bytes. -/
theorem mappingRequest_roundTrip :
    (∀ (p : Protocol) (a b l : Value),
      ((∃ d, mappingRequest (.known p) a b l = .ok d) ↔
        a.IsWholeUpTo 65535 ∧ b.IsWholeUpTo 65535 ∧ l.IsWholeUpTo 4294967295) ∧
      (∀ f, mappingRequest (.known p) a b l = .error f ↔
        ∃ e, f = .field e ∧ LeftmostMisfit a b l e) ∧
      ∀ d, mappingRequest (.known p) a b l = .ok d → d.length = 12 ∧
        ∃ (x y : UInt16) (z : UInt32), a.wholeNumber? = some (x.toNat : Int) ∧
          b.wholeNumber? = some (y.toNat : Int) ∧ l.wholeNumber? = some (z.toNat : Int) ∧
          ∀ rest, Request.decode (d ++ rest) = .ok (.mapping p x y z)) ∧
    (∀ d p x y z, Request.decode d = .ok (.mapping p x y z) →
      mappingRequest (.known p) (.whole x.toNat) (.whole y.toNat) (.whole z.toNat) =
        .ok (unreserved d)) ∧
    (∀ d, Request.decode d = .ok .publicAddress ↔ Request.publicAddress.encode <+: d) ∧
    (∀ p a b l p' a' b' l' d, mappingRequest (.known p) a b l = .ok d →
      mappingRequest (.known p') a' b' l' = .ok d →
        p = p' ∧ a.wholeNumber? = a'.wholeNumber? ∧ b.wholeNumber? = b'.wholeNumber? ∧
          l.wholeNumber? = l'.wholeNumber?) ∧
    (∀ d, (∃ r, Request.decode d = .ok r) ↔ Request.publicAddress.encode <+: d ∨
      ∃ p a b l, mappingRequest (.known p) a b l = .ok (unreserved d)) := by
  refine ⟨fun p a b l => ⟨?_, ?_, ?_⟩, ?_, decode_eq_publicAddress_iff, ?_, exists_decode_iff⟩
  · exact exists_mappingRequest_iff _ a b l
  · exact mappingRequest_eq_error_iff _ a b l
  · exact fun d h => decode_of_mappingRequest h
  · exact fun d p x y z h => mappingRequest_of_decode h
  · exact fun p a b l p' a' b' l' d h h' => mappingRequest_inj h h'

end PortMap.Wire
