import PortMap.Proofs.Wire.Area
import PortMap.Session.Basic
import Mathlib.Tactic.SplitIfs

/-!
# Datagrams that are refused

A datagram that does not read as a reply is refused with a complaint: about its version, else about its
opcode, else with the result code of the gateway.

* `Refused` — what is wrong with a receive area, in this order; `Reply.decode_eq_error_iff`.
* `Complaint.Tells` — what a complaint says of a result code, and of which kind it is.
* `refusals_exact` — **which datagrams are refused, with which complaint, and that the complaints tell
  the causes apart.**
-/

namespace PortMap

open Wire

/-! ### Result codes -/

namespace Complaint

/-- No two kinds stand for the same result code. -/
theorem Kind.eq_of_code? {k k' : Kind} {n : Nat} (h : k.code? = some n) (h' : k'.code? = some n) :
    k = k' := by
  cases k <;> cases h <;> cases k' <;> cases h' <;> rfl

/-- What a complaint says that tells a result code: the code, and nothing else. Its kind is the one that
stands for the code, or none in particular from six on. -/
structure Tells (c : Complaint) (n : Nat) : Prop where
  /-- The code itself. -/
  code : c.code = .whole n
  /-- The particulars. -/
  details : c.details = .table [("result_code", .whole n)]
  /-- A code with a meaning. -/
  named : n ≤ 5 → ∀ k : Kind, k.code? = some n ↔ k = c.kind
  /-- A code without a meaning. -/
  unnamed : 6 ≤ n → c.kind = .undefined

theorem tells_ofCode {n : Nat} (h : n ≠ 0) : (ofCode (.whole n)).Tells n := by
  obtain rfl | rfl | rfl | rfl | rfl | large :
    n = 1 ∨ n = 2 ∨ n = 3 ∨ n = 4 ∨ n = 5 ∨ 6 ≤ n := by omega
  iterate 5 exact ⟨rfl, rfl, fun _ k => ⟨fun h => Kind.eq_of_code? h rfl, fun h => h ▸ rfl⟩,
    fun large => absurd large (by decide)⟩
  have kind : Kind.ofCode n = .undefined := by
    unfold Kind.ofCode
    grind
  have complaint : ofCode (.whole n) =
      ofKind .undefined none (.table [("result_code", .whole n)]) (.whole n) := by
    rw [← kind]
    rfl
  rw [complaint]
  exact ⟨rfl, rfl, fun small => absurd small (by omega), fun _ => rfl⟩

end Complaint

namespace Wire

/-! ### What is wrong with a receive area -/

/-- What is wrong with a receive area, by the first of its fields that is. -/
inductive Refused (a : Bytes) : Reply.Fault → Prop
  /-- The version, whatever else there is. -/
  | version : get8 a 0 ≠ 0 → Refused a (.version (get8 a 0))
  /-- The opcode, whatever the result code. -/
  | opcode : get8 a 0 = 0 → ¬ (128 ≤ get8 a 1 ∧ get8 a 1 ≤ 130) → Refused a (.opcode (get8 a 1))
  /-- Nothing; the gateway refuses. -/
  | code {n : UInt16} : get8 a 0 = 0 → 128 ≤ get8 a 1 ∧ get8 a 1 ≤ 130 → get16 a 2 = n.toNat →
      n ≠ 0 → Refused a (.refused n)

theorem Reply.decode_eq_error_iff (d : Bytes) (f : Reply.Fault) :
    Reply.decode d = .error f ↔ Refused (area d) f := by
  unfold Reply.decode Reply.ofArea
  have code (n : UInt16) : get16 (area d) 2 = n.toNat ↔ UInt16.ofNat (get16 (area d) 2) = n :=
    (ofNat_get16_eq_iff _ _ n).symm
  generalize area d = a at code ⊢
  have opcode : get8 a 1 < 128 ∨ 130 < get8 a 1 ↔ ¬ (128 ≤ get8 a 1 ∧ get8 a 1 ≤ 130) := by
    rw [Decidable.not_and_iff_or_not, UInt8.not_le, UInt8.not_le]
  simp only [opcode, version]
  constructor
  · intro h
    split_ifs at h with h₀ h₁ h₂ <;> cases h
    · exact .version h₀
    · exact .code (Decidable.not_not.mp h₀) h₁ ((code _).mpr rfl) fun h => h₂ ((code 0).mpr h)
    · exact .opcode (Decidable.not_not.mp h₀) h₁
  · rintro (h₀ | ⟨h₀, h₁⟩ | ⟨h₀, h₁, h₂, h₃⟩)
    · rw [if_pos h₀]
    · rw [if_neg (not_not_intro h₀), if_pos h₁]
    · have notZero : get16 a 2 ≠ 0 := fun h => h₃ ((code _).mp h₂ ▸ (code 0).mp h)
      rw [if_neg (not_not_intro h₀), if_neg (not_not_intro h₁), if_pos notZero, (code _).mp h₂]

/-! ### Complaints about datagrams -/

open Session

/-- The complaint that a datagram is refused with. -/
def Raises (d : Bytes) (c : Complaint) : Prop := ∃ f, readReply d = .error f ∧ f.complaint? = some c

/-- A datagram has nothing wrong with it, and tells that the gateway refuses. -/
def Reports (d : Bytes) (n : Nat) : Prop :=
  get8 (area d) 0 = 0 ∧ (128 ≤ get8 (area d) 1 ∧ get8 (area d) 1 ≤ 130) ∧ get16 (area d) 2 = n ∧ n ≠ 0

theorem readReply_eq_error_iff (d : Bytes) (f : Fault) :
    readReply d = .error f ↔ ∃ e, Refused (area d) e ∧ f = .reply e := by
  simp only [← Reply.decode_eq_error_iff]
  unfold readReply
  cases Reply.decode d with
  | ok r => simp [Except.mapError]
  | error e => simp [Except.mapError, eq_comm]

theorem raises_iff (d : Bytes) (c : Complaint) :
    Raises d c ↔ ∃ e, Refused (area d) e ∧ c = .ofReplyFault e := by
  simp only [Raises, readReply_eq_error_iff]
  constructor
  · rintro ⟨_, ⟨e, he, rfl⟩, h⟩
    exact ⟨e, he, (Option.some.inj h).symm⟩
  · rintro ⟨e, he, rfl⟩
    exact ⟨_, ⟨e, he, rfl⟩, rfl⟩

theorem exists_refused_iff (a : Bytes) :
    (∃ e, Refused a e) ↔ get8 a 0 ≠ 0 ∨ ¬ (128 ≤ get8 a 1 ∧ get8 a 1 ≤ 130) ∨ get16 a 2 ≠ 0 := by
  constructor
  · rintro ⟨_, h | ⟨-, h⟩ | ⟨-, -, h, hn⟩⟩
    · exact .inl h
    · exact .inr (.inl h)
    · refine .inr (.inr fun zero => hn ?_)
      rw [← UInt16.toNat_inj, ← h, zero]
      rfl
  · intro h
    by_cases h₀ : get8 a 0 = 0
    · by_cases h₁ : 128 ≤ get8 a 1 ∧ get8 a 1 ≤ 130
      · have h₂ : get16 a 2 ≠ 0 := (h.resolve_left (not_not_intro h₀)).resolve_left (not_not_intro h₁)
        have number := (ofNat_get16_eq_iff a 2 _).mp rfl
        refine ⟨_, .code h₀ h₁ number fun zero => h₂ ?_⟩
        rw [number, zero]
        rfl
      · exact ⟨_, .opcode h₀ h₁⟩
    · exact ⟨_, .version h₀⟩

/-- What a datagram is refused with tells a result code exactly if the gateway has told it. -/
theorem tells_iff_reports {d : Bytes} {c : Complaint} (h : Raises d c) (n : Nat) :
    c.details = .table [("result_code", .whole n)] ↔ Reports d n := by
  obtain ⟨e, he, rfl⟩ := (raises_iff d c).mp h
  cases he with
  | version h₀ =>
    refine iff_of_false (fun told => ?_) fun reports => h₀ reports.1
    injection told with fields
    simp at fields
  | opcode h₀ h₁ =>
    refine iff_of_false (fun told => ?_) fun reports => h₁ reports.2.1
    injection told with fields
    simp at fields
  | @code m h₀ h₁ h₂ h₃ =>
    have positive : m.toNat ≠ 0 := fun zero => h₃ (UInt16.toNat_inj.mp zero)
    have told : (Complaint.ofReplyFault (.refused m)).details =
        .table [("result_code", .whole m.toNat)] := rfl
    rw [told, Reports, h₂]
    simp only [Value.table.injEq, List.cons.injEq, Prod.mk.injEq, Value.whole.injEq, true_and,
      and_true, Int.natCast_inj]
    exact ⟨fun same => ⟨h₀, h₁, same, same ▸ positive⟩, fun reports => reports.2.2.1⟩

/-- A result code that is told is all that the complaint depends on. -/
theorem eq_ofCode {d : Bytes} {c : Complaint} {n : Nat} (h : Raises d c) (hn : Reports d n) :
    c = .ofCode (.whole n) := by
  obtain ⟨e, he, rfl⟩ := (raises_iff d c).mp h
  obtain ⟨h₀, h₁, rfl, -⟩ := hn
  cases he with
  | version other => exact absurd h₀ other
  | opcode _ other => exact absurd h₁ other
  | code _ _ same _ =>
    rw [same]
    rfl

/-- **Every datagram is read or refused, and the refusals tell their causes apart.** All fields that are
looked at lie within the sixteen bytes of the receive area. A datagram is refused exactly if its version
is not zero, its opcode is not one of a reply, or its result code is not zero, and always with a
complaint: of these three the first decides, whatever the others are. A complaint about the version or the
opcode tells the byte; one about a result code tells that code. It has the same particulars, and is the
same, as that of a gateway that reported a code, exactly if it is about a gateway that reported that
code. -/
theorem refusals_exact (d : Bytes) :
    (area d).length = 16 ∧
    ((∃ f, readReply d = .error f) ↔
      get8 (area d) 0 ≠ 0 ∨ ¬ (128 ≤ get8 (area d) 1 ∧ get8 (area d) 1 ≤ 130) ∨
        get16 (area d) 2 ≠ 0) ∧
    (∀ f, readReply d = .error f → ∃ c, f.complaint? = some c ∧
      (get8 (area d) 0 ≠ 0 → c.kind = .unsupportedVersion ∧
        c.details = .table [("version", .whole (get8 (area d) 0).toNat)]) ∧
      (get8 (area d) 0 = 0 → ¬ (128 ≤ get8 (area d) 1 ∧ get8 (area d) 1 ≤ 130) →
        c.kind = .unsupportedOpcode ∧
        c.details = .table [("opcode", .whole (get8 (area d) 1).toNat)]) ∧
      (get8 (area d) 0 = 0 → 128 ≤ get8 (area d) 1 ∧ get8 (area d) 1 ≤ 130 →
        get16 (area d) 2 ≠ 0 ∧ c.Tells (get16 (area d) 2))) ∧
    (∀ (c c' : Complaint) (d' : Bytes) (n : Nat), Raises d c → Raises d' c' → Reports d' n →
      (c.details = c'.details ↔ Reports d n) ∧ (c = c' ↔ Reports d n)) := by
  refine ⟨length_area d, ?_, fun f hf => ?_, fun c c' d' n h h' hn => ?_⟩
  · rw [← exists_refused_iff]
    simp only [readReply_eq_error_iff]
    constructor
    · rintro ⟨_, e, he, -⟩
      exact ⟨e, he⟩
    · rintro ⟨e, he⟩
      exact ⟨_, e, he, rfl⟩
  · obtain ⟨e, he, rfl⟩ := (readReply_eq_error_iff d f).mp hf
    refine ⟨.ofReplyFault e, rfl, ?_⟩
    cases he with
    | version h₀ =>
      exact ⟨fun _ => ⟨rfl, rfl⟩, fun h => absurd h h₀, fun h => absurd h h₀⟩
    | opcode h₀ h₁ =>
      exact ⟨fun h => absurd h₀ h, fun _ _ => ⟨rfl, rfl⟩, fun _ h => absurd h h₁⟩
    | @code m h₀ h₁ h₂ h₃ =>
      refine ⟨fun h => absurd h₀ h, fun _ h => absurd h₁ h, fun _ _ => ?_⟩
      have positive : m.toNat ≠ 0 := fun zero => h₃ (UInt16.toNat_inj.mp zero)
      rw [h₂]
      exact ⟨positive, Complaint.tells_ofCode positive⟩
  · have told := (tells_iff_reports h' n).mpr hn
    rw [told, tells_iff_reports h n]
    refine ⟨Iff.rfl, fun same => ?_, fun reports => ?_⟩
    · rw [← tells_iff_reports h n, same, told]
    · rw [eq_ofCode h reports, eq_ofCode h' hn]

/-- A datagram of two bytes is refused for its opcode, and one of four bytes because the gateway does not
support that of the request; the particulars tell the two apart. -/
theorem refusals_exact_cutOff :
    let d : Bytes := [0, 5]
    let d' : Bytes := [0, 128, 0, 5]
    ∃ c c', Raises d c ∧ Raises d' c' ∧ Reports d' 5 ∧ c.kind = .unsupportedOpcode ∧
      c'.kind = .unsupportedOpcode ∧ c.details ≠ c'.details := by
  intro d d'
  have reports : Reports d' 5 := ⟨by decide, by decide, by decide, by decide⟩
  have unreported : ¬ Reports d 5 := fun h => absurd h.2.1 (by decide)
  obtain ⟨-, refused, told, apart⟩ := refusals_exact d
  obtain ⟨f, hf⟩ := refused.mpr (.inr (.inl (by decide)))
  obtain ⟨c, hc, -, opcode, -⟩ := told f hf
  have raises' : Raises d' (.ofCode (.whole 5)) :=
    (raises_iff d' _).mpr ⟨.refused 5, .code (by decide) (by decide) (by decide) (by decide), rfl⟩
  refine ⟨c, _, ⟨f, hf, hc⟩, raises', reports, (opcode (by decide) (by decide)).1, rfl, fun same => ?_⟩
  exact unreported ((apart c _ d' 5 ⟨f, hf, hc⟩ raises' reports).1.mp same)

end Wire

end PortMap
