import PortMap.Settings.Overlay
import PortMap.Settings.Environment

/-!
# Looking things up in tables laid over each other

What stands at a name after a field was put, after one table was laid over another, and after a field
was put into a section. A table that is laid over another one has each name once.

## What is proved

* `Table.get?_put`, `Table.get?_overlay` — the value at a name.
* `Table.fields_overlay` — laid over a table, one that holds nothing but sections (`Sectioned`) is laid over
  it section by section.
* `Table.get?_fields_overlay` — within a section, **what is laid over comes first, and what lies below
  shows wherever nothing covers it**.
-/

namespace PortMap

/-- What becomes of a value over what stood in its place, if anything did. -/
def Value.covering (old : Option Value) (v : Value) : Value := (old.map fun w => w.overlay v).getD v

/-- A value that is no table replaces what it is laid over. -/
theorem Value.over_of_not_table {v : Value} (h : v.table? = none) (old : Option Value) :
    Value.covering old v = v := by
  cases old with
  | none => rfl
  | some w =>
    cases v with
    | table | inlined => cases h
    | _ => rfl

namespace Table

variable {t base upper : Table} {s k n : String} {v : Value}

/-! ### Fields -/

theorem get?_cons (k : String) (v : Value) (t : Table) (n : String) :
    get? ((k, v) :: t) n = if n = k then some v else t.get? n := by
  by_cases h : n = k
  · subst h
    simp [get?]
  · have other : (n == k) = false := by simpa using h
    simp [get?, List.lookup_cons, h, other]

theorem notMem_names_cons : n ∉ names ((k, v) :: t) ↔ n ≠ k ∧ n ∉ t.names := by
  simp [names]

theorem nodup_names_cons : (names ((k, v) :: t)).Nodup ↔ k ∉ t.names ∧ t.names.Nodup :=
  List.nodup_cons

theorem get?_eq_none_of_notMem (h : n ∉ t.names) : t.get? n = none := by
  induction t with
  | nil => rfl
  | cons x rest ih =>
    obtain ⟨other, absent⟩ := notMem_names_cons.mp h
    rw [get?_cons, if_neg other, ih absent]

theorem mem_of_get? (h : t.get? n = some v) : (n, v) ∈ t := by
  induction t with
  | nil => cases h
  | cons x t ih =>
    rw [get?_cons] at h
    split at h
    · rename_i same
      cases h
      exact same ▸ List.mem_cons_self
    · exact List.mem_cons_of_mem x (ih h)

theorem get?_put (t : Table) (k : String) (v : Value) (n : String) :
    (t.put k v).get? n = if n = k then some v else t.get? n := by
  induction t with
  | nil => rw [put, get?_cons]
  | cons x rest ih =>
    obtain ⟨k', w⟩ := x
    rw [put]
    by_cases hk : k' = k
    · subst hk
      rw [if_pos rfl, get?_cons, get?_cons]
      by_cases hn : n = k' <;> simp [hn]
    · rw [if_neg hk, get?_cons, get?_cons, ih]
      by_cases hn : n = k'
      · simp [hn, hk]
      · simp [hn]

theorem mem_names_put : n ∈ (t.put k v).names ↔ n = k ∨ n ∈ t.names := by
  induction t with
  | nil => simp [put, names]
  | cons x rest ih =>
    obtain ⟨k', w⟩ := x
    rw [put]
    by_cases hk : k' = k
    · subst hk
      simp [names]
    · simp only [if_neg hk, names, List.map_cons, List.mem_cons] at ih ⊢
      rw [ih, or_left_comm]

theorem nodup_names_put (h : t.names.Nodup) : (t.put k v).names.Nodup := by
  induction t with
  | nil => simp [put, names]
  | cons x rest ih =>
    obtain ⟨k', w⟩ := x
    obtain ⟨absent, distinct⟩ := nodup_names_cons.mp h
    rw [put]
    by_cases hk : k' = k
    · subst hk
      rw [if_pos rfl]
      exact h
    · rw [if_neg hk]
      refine nodup_names_cons.mpr ⟨fun present => ?_, ih distinct⟩
      rcases mem_names_put.mp present with same | below
      · exact hk same
      · exact absent below

/-- What was put last counts. -/
theorem put_put (t : Table) (k : String) (v w : Value) : (t.put k v).put k w = t.put k w := by
  induction t with
  | nil => exact if_pos rfl
  | cons x rest ih =>
    obtain ⟨k', u⟩ := x
    rw [put, put]
    split
    · rename_i same
      rw [put, if_pos same]
    · rename_i other
      rw [put, if_neg other, ih]

/-- A field that is new stands at the end. -/
theorem put_of_notMem (h : k ∉ t.names) : t.put k v = t ++ [(k, v)] := by
  induction t with
  | nil => rfl
  | cons x rest ih =>
    obtain ⟨other, absent⟩ := notMem_names_cons.mp h
    rw [put, if_neg (Ne.symm other), ih absent, List.cons_append]

/-! ### Tables laid over each other -/

theorem overlay_cons (base : Table) (k : String) (v : Value) (rest : Table) :
    overlay base ((k, v) :: rest) = overlay (base.put k (Value.covering (base.get? k) v)) rest := by
  rw [overlay]
  cases base.get? k <;> rfl

theorem get?_overlay_of_notMem (h : n ∉ upper.names) : (overlay base upper).get? n = base.get? n := by
  induction upper generalizing base with
  | nil => rw [overlay]
  | cons x rest ih =>
    obtain ⟨other, absent⟩ := notMem_names_cons.mp h
    rw [overlay_cons, ih absent, get?_put, if_neg other]

/-- **What stands at a name in a table laid over another.** -/
theorem get?_overlay (distinct : upper.names.Nodup) (base : Table) (n : String) :
    (overlay base upper).get? n =
      match upper.get? n with
      | none => base.get? n
      | some v => some (Value.covering (base.get? n) v) := by
  induction upper generalizing base with
  | nil =>
    rw [overlay]
    rfl
  | cons x rest ih =>
    obtain ⟨k, w⟩ := x
    obtain ⟨absent, distinct⟩ := nodup_names_cons.mp distinct
    rw [overlay_cons, get?_cons]
    by_cases h : n = k
    · subst h
      rw [if_pos rfl, get?_overlay_of_notMem absent, get?_put, if_pos rfl]
    · rw [if_neg h, ih distinct, get?_put, if_neg h]

/-- A table that shares no name with the one that it is laid over follows it. -/
theorem overlay_of_disjoint (distinct : upper.names.Nodup) (disjoint : ∀ n ∈ upper.names, n ∉ base.names) :
    overlay base upper = base ++ upper := by
  induction upper generalizing base with
  | nil => rw [overlay, List.append_nil]
  | cons x rest ih =>
    obtain ⟨k, w⟩ := x
    obtain ⟨absent, distinct⟩ := nodup_names_cons.mp distinct
    have new : k ∉ base.names := disjoint k (List.mem_cons_self ..)
    rw [overlay_cons, get?_eq_none_of_notMem new]
    change overlay (base.put k w) rest = _
    rw [ih distinct, put_of_notMem new, List.append_assoc, List.singleton_append]
    intro n hn put_
    rcases mem_names_put.mp put_ with rfl | below
    · exact absent hn
    · exact disjoint n (List.mem_cons_of_mem _ hn) below

theorem overlay_nil_left (distinct : upper.names.Nodup) : overlay [] upper = upper :=
  overlay_of_disjoint distinct fun _ _ => List.not_mem_nil

/-! ### Sections -/

/-- The fields of a section; what is no table has none. -/
def fields (t : Table) (s : String) : Table := ((t.get? s).bind Value.table?).getD []

/-- A table that holds nothing but sections, whose fields are no tables. -/
structure Sectioned (t : Table) : Prop where
  /-- Each section stands once. -/
  names : t.names.Nodup
  /-- A section is a table. -/
  sections : ∀ s, (t.get? s).isSome → t.get? s = some (.table (t.fields s))
  /-- Each field of a section stands once. -/
  distinct : ∀ s, (t.fields s).names.Nodup
  /-- The fields of a section are no tables. -/
  plain : ∀ s n v, (t.fields s).get? n = some v → v.table? = none

theorem Sectioned.nil : Sectioned [] := ⟨List.nodup_nil, nofun, fun _ => List.nodup_nil, nofun⟩

theorem Sectioned.eq_table (h : t.Sectioned) (found : t.get? s = some v) :
    ∃ fields : Table, v = .table fields :=
  ⟨_, Option.some.inj (found.symm.trans (h.sections s (by rw [found]; rfl)))⟩

/-- **A table of sections is laid over another one section by section.** -/
theorem fields_overlay (h : upper.Sectioned) (base : Table) (s : String) :
    (overlay base upper).fields s = overlay (base.fields s) (upper.fields s) := by
  have distinct := h.distinct s
  unfold fields at *
  rw [get?_overlay h.names]
  cases found : upper.get? s with
  | none =>
    change _ = overlay _ []
    rw [overlay]
  | some v =>
    rw [found] at distinct
    obtain ⟨fields, rfl⟩ := h.eq_table found
    -- what the section is laid over has fields only if it is a table
    cases base.get? s with
    | none => exact (overlay_nil_left distinct).symm
    | some w =>
      cases w with
      | table | inlined => rfl
      | _ => exact (overlay_nil_left distinct).symm

/-- **What is laid over comes first**, and what lies below shows wherever nothing covers it. -/
theorem get?_fields_overlay (h : upper.Sectioned) (base : Table) (s n : String) :
    ((overlay base upper).fields s).get? n = ((upper.fields s).get? n).or ((base.fields s).get? n) := by
  rw [fields_overlay h, get?_overlay (h.distinct s)]
  cases found : (upper.fields s).get? n with
  | none => rfl
  | some v =>
    simp only [Value.over_of_not_table (h.plain s n v found), Option.some_or]

/-- A section that is laid over is a table, whatever it covers; one that is not is as below. -/
theorem get?_overlay_section (h : upper.Sectioned) (base : Table) (s : String) :
    if (upper.get? s).isSome then ∃ v, (overlay base upper).get? s = some v ∧ v.table?.isSome
    else (overlay base upper).get? s = base.get? s := by
  rw [get?_overlay h.names]
  cases found : upper.get? s with
  | none => rfl
  | some v =>
    obtain ⟨fields, rfl⟩ := h.eq_table found
    refine ⟨_, rfl, ?_⟩
    cases base.get? s with
    | none => rfl
    | some w => cases w <;> rfl

end Table

namespace Environment

variable {t : Table} {s k : String} {v : Value}

/-! ### Fields put into a section -/

theorem get?_putWithin (t : Table) (s k : String) (v : Value) (s' : String) :
    (putWithin t s k v).get? s' = if s' = s then some (.table ((t.fields s).put k v)) else t.get? s' :=
  Table.get?_put t s _ s'

theorem fields_putWithin (t : Table) (s k : String) (v : Value) (s' : String) :
    (putWithin t s k v).fields s' = if s' = s then (t.fields s).put k v else t.fields s' := by
  unfold Table.fields
  rw [get?_putWithin]
  by_cases hs : s' = s
  · rw [if_pos hs, if_pos hs]
    rfl
  · rw [if_neg hs, if_neg hs]

theorem sectioned_putWithin (h : t.Sectioned) (plain : v.table? = none) :
    (putWithin t s k v).Sectioned := by
  refine ⟨Table.nodup_names_put h.names, fun s' there => ?_, fun s' => ?_, fun s' n w found => ?_⟩
  · rw [get?_putWithin] at there ⊢
    rw [fields_putWithin]
    by_cases hs : s' = s
    · rw [if_pos hs, if_pos hs]
    · rw [if_neg hs] at there ⊢
      rw [if_neg hs]
      exact h.sections s' there
  · rw [fields_putWithin]
    by_cases hs : s' = s
    · rw [if_pos hs]
      exact Table.nodup_names_put (h.distinct s)
    · rw [if_neg hs]
      exact h.distinct s'
  · rw [fields_putWithin] at found
    by_cases hs : s' = s
    · rw [if_pos hs, Table.get?_put] at found
      by_cases hn : n = k
      · rw [if_pos hn] at found
        cases found
        exact plain
      · rw [if_neg hn] at found
        exact h.plain s n w found
    · rw [if_neg hs] at found
      exact h.plain s' n w found

end Environment

end PortMap
