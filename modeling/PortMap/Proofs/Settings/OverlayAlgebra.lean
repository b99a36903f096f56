import Mathlib.Data.List.Nodup
import PortMap.Proofs.Settings.Overlay

/-!
# The algebra of tables laid over each other

Laying one table over another is looked at here as an operation on nested tables. A table is proper
(`Table.Proper`) if each name stands once in it, and once in each table in it. What stands in a table is told
by paths of names (`Table.at?`); a path is cut off (`Table.CutsOff`) where a part of it leads to a value that
is no table. Two tables are alike (`Table.Alike`) if no path leads to a table in one of them and to another
value in the other.

## The argument

Proper tables are equal if they have the same names in the same order and the same value at each name
(`Table.eq_of_get?`). The names of an overlay are those of the lower table, followed by the new ones of the
upper table (`names_overlay`), and its values are known name by name (`get?_overlay`), where tables meet tables
in the same operation one level below. So each law is an induction over a proper table, and what is known of
the tables in it is the law itself.

## What is proved

* `overlay_self`, `overlay_overlay_self` — a table that is laid over itself, or a second time, changes nothing.
* `overlay_assoc` — **of three tables that are alike, it does not matter which two are laid over first**.
* `Value.at?_covering` — **what stands at a path**: what is laid over, or what lies below and shows.
* `overlay_algebra` — the laws together.
-/

namespace PortMap

/-! ### Paths -/

namespace Value

/-- The fields of a value; one that is no table has none. -/
def fields (v : Value) : Table := v.table?.getD []

/-- What stands at a path of names below a value. -/
def at? (v : Value) : List String → Option Value
  | [] => some v
  | n :: path => (v.fields.get? n).bind fun w => w.at? path

/-- A part of a path, and not all of it, leads to a value that is no table. -/
def CutsOff (v : Value) (path : List String) : Prop :=
  ∃ part, part <+: path ∧ part ≠ path ∧ ∃ w, v.at? part = some w ∧ w.table? = none

/-- No path leads to a table below one of two values, and to another value below the other. -/
def Alike (v w : Value) : Prop :=
  ∀ path p q, v.at? path = some p → w.at? path = some q → (p.table?.isSome ↔ q.table?.isSome)

theorem eq_of_table? {v : Value} {t : Table} (h : v.table? = some t) : v = .table t ∨ v = .inlined t := by
  cases v with
  | table | inlined => cases h; simp
  | _ => cases h

theorem fields_of_table {v : Value} {t : Table} (h : v.table? = some t) : v.fields = t := by
  rw [fields, h, Option.getD_some]

theorem fields_of_not_table {v : Value} (h : v.table? = none) : v.fields = [] := by
  rw [fields, h, Option.getD_none]

theorem not_cutsOff_nil (v : Value) : ¬ v.CutsOff [] := by
  rintro ⟨part, below, other, -⟩
  exact other (List.prefix_nil.mp below)

theorem cutsOff_cons {v : Value} {n : String} {path : List String} :
    v.CutsOff (n :: path) ↔ v.table? = none ∨ ∃ w, v.fields.get? n = some w ∧ w.CutsOff path := by
  constructor
  · rintro ⟨part, below, other, w, at_, noTable⟩
    cases part with
    | nil =>
      cases at_
      exact .inl noTable
    | cons m part =>
      obtain ⟨rfl, shorter⟩ := List.cons_prefix_cons.mp below
      obtain ⟨u, field, at_⟩ := Option.bind_eq_some_iff.mp at_
      exact .inr ⟨u, field, part, shorter, fun same => other (congrArg _ same), w, at_, noTable⟩
  · rintro (noTable | ⟨w, field, part, below, other, u, at_, noTable⟩)
    · exact ⟨[], List.nil_prefix, (List.cons_ne_nil n path).symm, v, rfl, noTable⟩
    · refine ⟨n :: part, List.cons_prefix_cons.mpr ⟨rfl, below⟩, fun same => other (List.cons.inj same).2, u,
        ?_, noTable⟩
      exact Option.bind_eq_some_iff.mpr ⟨w, field, at_⟩

/-- Behind a value that is no table there is nothing. -/
theorem at?_of_cutsOff {v : Value} {path : List String} (h : v.CutsOff path) : v.at? path = none := by
  induction path generalizing v with
  | nil => exact absurd h (not_cutsOff_nil v)
  | cons n path ih =>
    rcases cutsOff_cons.mp h with noTable | ⟨w, field, cut⟩
    · rw [at?, fields_of_not_table noTable]
      rfl
    · rw [at?, field, Option.bind_some, ih cut]

theorem Alike.field {v w p q : Value} (h : v.Alike w) {n : String} (left : v.fields.get? n = some p)
    (right : w.fields.get? n = some q) : p.Alike q := fun path x y at_ at_' =>
  h (n :: path) x y (Option.bind_eq_some_iff.mpr ⟨p, left, at_⟩)
    (Option.bind_eq_some_iff.mpr ⟨q, right, at_'⟩)

theorem Alike.of_not_table {v w : Value} (left : v.table? = none) (right : w.table? = none) : v.Alike w := by
  intro path p q at_ at_'
  cases path with
  | nil =>
    cases at_
    cases at_'
    rw [left, right]
  | cons n path =>
    rw [at?, fields_of_not_table left] at at_
    cases at_

theorem Alike.isSome_iff {v w : Value} (h : v.Alike w) : v.table?.isSome ↔ w.table?.isSome :=
  h [] v w rfl rfl

end Value

namespace Table

/-- What stands at a path of names in a table. -/
def at? (t : Table) (path : List String) : Option Value := (Value.table t).at? path

/-- A part of a path, and not all of it, leads to a value in a table that is no table. -/
def CutsOff (t : Table) (path : List String) : Prop := (Value.table t).CutsOff path

/-- A table stands at a path. -/
def HoldsTable (t : Table) (path : List String) (fields : Table) : Prop :=
  ∃ v, t.at? path = some v ∧ v.table? = some fields

/-- No path leads to a table in one of two tables, and to another value in the other. -/
def Alike (t u : Table) : Prop := (Value.table t).Alike (.table u)

/-- Each name stands once in a table, and so it is with the tables that it holds. -/
inductive Proper : Table → Prop
  /-- The names are distinct, and the tables among the values are proper. -/
  | intro {t : Table} (distinct : t.names.Nodup)
      (inner : ∀ n v fields, t.get? n = some v → v.table? = some fields → Proper fields) : Proper t

variable {a b c t u base upper : Table} {n k : String} {v w : Value} {path : List String}

theorem Proper.distinct (h : t.Proper) : t.names.Nodup := by
  cases h with
  | intro distinct _ => exact distinct

theorem Proper.inner (h : t.Proper) {fields : Table} (field : t.get? n = some v)
    (isTable : v.table? = some fields) : fields.Proper := by
  cases h with
  | intro _ inner => exact inner n v fields field isTable

theorem Proper.nil : Proper [] := .intro List.nodup_nil nofun

theorem Proper.cons (h : t.Proper) (absent : k ∉ t.names)
    (value : ∀ fields, v.table? = some fields → fields.Proper) : Proper ((k, v) :: t) := by
  refine .intro (nodup_names_cons.mpr ⟨absent, h.distinct⟩) fun n w fields field isTable => ?_
  rw [get?_cons] at field
  split at field
  · cases field
    exact value fields isTable
  · exact h.inner field isTable

theorem Alike.nil : Alike [] u := by
  intro path p q at_ at_'
  cases path with
  | nil =>
    cases at_
    cases at_'
    exact Iff.rfl
  | cons n path => cases at_

theorem Alike.cons (h : Alike t u) (value : ∀ w, u.get? k = some w → v.Alike w) : Alike ((k, v) :: t) u := by
  intro path p q at_ at_'
  cases path with
  | nil =>
    cases at_
    cases at_'
    exact Iff.rfl
  | cons n path =>
    obtain ⟨x, field, at_⟩ := Option.bind_eq_some_iff.mp at_
    obtain ⟨y, field', at_'⟩ := Option.bind_eq_some_iff.mp at_'
    change Table.get? ((k, v) :: t) n = some x at field
    rw [get?_cons] at field
    split at field
    · rename_i same
      cases field
      exact value y (same ▸ field') path p q at_ at_'
    · exact h (n :: path) p q (Option.bind_eq_some_iff.mpr ⟨x, field, at_⟩)
        (Option.bind_eq_some_iff.mpr ⟨y, field', at_'⟩)

/-- The tables of values that are alike are alike. -/
theorem Alike.of_table (h : v.Alike w) (left : v.table? = some t) (right : w.table? = some u) :
    t.Alike u := by
  intro path p q at_ at_'
  cases path with
  | nil =>
    cases at_
    cases at_'
    exact Iff.rfl
  | cons n path =>
    refine h (n :: path) p q ?_ ?_
    · rw [Value.at?, Value.fields_of_table left]
      exact at_
    · rw [Value.at?, Value.fields_of_table right]
      exact at_'

/-! ### Tables by their names and values -/

/-- Tables with distinct names are equal if their names and the values at these are. -/
theorem eq_of_get? (distinct : t.names.Nodup) (same : t.names = u.names)
    (values : ∀ n, t.get? n = u.get? n) : t = u := by
  induction t generalizing u with
  | nil =>
    cases u with
    | nil => rfl
    | cons y u => cases same
  | cons x t ih =>
    obtain ⟨k, v⟩ := x
    cases u with
    | nil => cases same
    | cons y u =>
      obtain ⟨k', w⟩ := y
      obtain ⟨absent, distinct⟩ := nodup_names_cons.mp distinct
      obtain ⟨rfl, others⟩ : k = k' ∧ names t = names u := List.cons.inj same
      have first := values k
      rw [get?_cons, get?_cons, if_pos rfl, if_pos rfl] at first
      rw [Option.some.inj first, ih distinct others fun n => ?_]
      by_cases h : n = k
      · rw [h, get?_eq_none_of_notMem absent, get?_eq_none_of_notMem (others ▸ absent)]
      · have other := values n
        rwa [get?_cons, get?_cons, if_neg h, if_neg h] at other

theorem names_put (t : Table) (k : String) (v : Value) :
    (t.put k v).names = if k ∈ t.names then t.names else t.names ++ [k] := by
  induction t with
  | nil => rfl
  | cons x t ih =>
    obtain ⟨k', w⟩ := x
    rw [put]
    by_cases h : k' = k
    · simp [h, names]
    · have names_cons (rest : Table) : names ((k', w) :: rest) = k' :: names rest := rfl
      rw [if_neg h, names_cons, names_cons, ih]
      by_cases there : k ∈ names t <;> simp [there, Ne.symm h]

/-- **The names of an overlay**: those of the lower table in their order, and then the new ones of the upper
table in theirs. -/
theorem names_overlay (distinct : upper.names.Nodup) (base : Table) :
    (overlay base upper).names = base.names ++ upper.names.filter (· ∉ base.names) := by
  induction upper generalizing base with
  | nil =>
    rw [overlay]
    exact (List.append_nil _).symm
  | cons x rest ih =>
    obtain ⟨k, w⟩ := x
    obtain ⟨absent, distinct⟩ := nodup_names_cons.mp distinct
    have names_cons : names ((k, w) :: rest) = k :: names rest := rfl
    rw [overlay_cons, ih distinct, names_put, names_cons]
    by_cases h : k ∈ base.names
    · simp [h]
    · -- the name is new, and stands once in the upper table
      have others : ∀ n ∈ names rest, n ≠ k := fun n hn same => absent (same ▸ hn)
      have rest_new : (names rest).filter (· ∉ base.names ++ [k]) = (names rest).filter (· ∉ base.names) :=
        List.filter_congr fun n hn => by simp [others n hn]
      rw [if_neg h, rest_new, List.filter_cons_of_pos (by simpa using h), List.append_assoc,
        List.singleton_append]

theorem nodup_names_overlay (distinct : base.names.Nodup) (distinct' : upper.names.Nodup) :
    (overlay base upper).names.Nodup := by
  rw [names_overlay distinct']
  refine List.Nodup.append distinct (distinct'.filter _) fun n below above => ?_
  exact of_decide_eq_true (List.mem_filter.mp above).2 below

end Table

/-! ### Values over values -/

namespace Value

variable {v w : Value} {base upper : Table}

/-- The table of the same kind with other fields. -/
def withFields (v : Value) (t : Table) : Value :=
  match v with
  | .inlined _ => .inlined t
  | _ => .table t

@[simp] theorem table?_withFields (v : Value) (t : Table) : (v.withFields t).table? = some t := by
  cases v <;> rfl

@[simp] theorem withFields_withFields (v : Value) (t u : Table) :
    (v.withFields t).withFields u = v.withFields u := by
  cases v <;> rfl

theorem withFields_self (h : v.table? = some base) : v.withFields base = v := by
  rcases eq_of_table? h with rfl | rfl <;> rfl

/-- A table is laid over the fields of a table, whose kind stays. -/
theorem overlay_of_table (h : w.table? = some base) (h' : v.table? = some upper) :
    w.overlay v = w.withFields (Table.overlay base upper) := by
  rcases eq_of_table? h with rfl | rfl <;> rcases eq_of_table? h' with rfl | rfl <;>
    rw [overlay] <;> rfl

/-- Whatever is laid over a value that is no table replaces it. -/
theorem overlay_of_not_table (h : w.table? = none) (v : Value) : w.overlay v = v := by
  cases hv : v.table? with
  | none => exact over_of_not_table hv (some w)
  | some upper =>
    rcases eq_of_table? hv with rfl | rfl
    all_goals
      cases w with
      | table | inlined => cases h
      | _ => rw [overlay] <;> nofun

end Value

namespace Table

variable {a b c t u base upper : Table} {n k : String} {v w : Value} {path : List String}

/-- A table over whatever stood in its place is laid over the fields there. -/
theorem table?_covering (isTable : v.table? = some upper) (distinct : upper.names.Nodup)
    (old : Option Value) :
    (Value.covering old v).table? = some (overlay (old.elim [] Value.fields) upper) := by
  have alone := overlay_nil_left distinct
  cases old with
  | none =>
    rw [Option.elim_none, alone]
    exact isTable
  | some w =>
    change (w.overlay v).table? = some (overlay w.fields upper)
    cases below : w.table? with
    | none => rw [Value.overlay_of_not_table below, Value.fields_of_not_table below, alone, isTable]
    | some base =>
      rw [Value.overlay_of_table below isTable, Value.table?_withFields, Value.fields_of_table below]

/-- The fields of a value in a proper table are proper. -/
theorem Proper.fields (h : t.Proper) (n : String) : Proper ((t.get? n).elim [] Value.fields) := by
  cases field : t.get? n with
  | none => exact .nil
  | some v =>
    rw [Option.elim_some]
    cases isTable : v.table? with
    | none =>
      rw [Value.fields_of_not_table isTable]
      exact .nil
    | some fields =>
      rw [Value.fields_of_table isTable]
      exact h.inner field isTable

theorem Proper.overlay (proper : base.Proper) (proper' : upper.Proper) : (overlay base upper).Proper := by
  induction proper' generalizing base with
  | @intro upper distinct inner ih =>
    refine .intro (nodup_names_overlay proper.distinct distinct) fun n v fields field isTable => ?_
    rw [get?_overlay distinct] at field
    cases above : upper.get? n with
    | none =>
      rw [above] at field
      exact proper.inner field isTable
    | some w =>
      rw [above] at field
      cases field
      cases isTable' : w.table? with
      | none =>
        rw [Value.over_of_not_table isTable', isTable'] at isTable
        cases isTable
      | some x =>
        rw [table?_covering isTable' (inner n w x above isTable').distinct] at isTable
        cases isTable
        exact ih n w x above isTable' (proper.fields n)

/-! ### The laws -/

/-- **A table laid over itself is the same table.** -/
theorem overlay_self (proper : t.Proper) : overlay t t = t := by
  induction proper with
  | @intro t distinct inner ih =>
    refine eq_of_get? (nodup_names_overlay distinct distinct) ?_ fun n => ?_
    · rw [names_overlay distinct, List.filter_eq_nil_iff.mpr fun n hn => by simp [hn], List.append_nil]
    · rw [get?_overlay distinct]
      cases field : t.get? n with
      | none => rfl
      | some v =>
        refine congrArg some ?_
        cases isTable : v.table? with
        | none => exact Value.over_of_not_table isTable _
        | some fields =>
          change v.overlay v = v
          rw [Value.overlay_of_table isTable isTable, ih n v fields field isTable,
            Value.withFields_self isTable]

/-- **A table laid over another one a second time changes nothing.** -/
theorem overlay_overlay_self (proper : base.Proper) (proper' : upper.Proper) :
    overlay (overlay base upper) upper = overlay base upper := by
  induction proper' generalizing base with
  | @intro upper distinct inner ih =>
    have distinct' := nodup_names_overlay proper.distinct distinct
    refine eq_of_get? (nodup_names_overlay distinct' distinct) ?_ fun n => ?_
    · -- no name is new the second time
      rw [names_overlay distinct, List.filter_eq_nil_iff.mpr fun n hn => ?_, List.append_nil]
      by_cases below : n ∈ base.names <;> simp [names_overlay distinct, below, hn]
    · rw [get?_overlay distinct, get?_overlay distinct]
      cases above : upper.get? n with
      | none => rfl
      | some v =>
        refine congrArg some ?_
        cases isTable : v.table? with
        | none => simp only [Value.over_of_not_table isTable]
        | some fields =>
          have self : v.overlay v = v := by
            rw [Value.overlay_of_table isTable isTable, overlay_self (inner n v fields above isTable),
              Value.withFields_self isTable]
          cases below : base.get? n with
          | none => exact self
          | some w =>
            change (w.overlay v).overlay v = w.overlay v
            cases isTable' : w.table? with
            | none => rw [Value.overlay_of_not_table isTable', self]
            | some x =>
              rw [Value.overlay_of_table isTable' isTable,
                Value.overlay_of_table (Value.table?_withFields w _) isTable,
                ih n v fields above isTable (proper.inner below isTable'), Value.withFields_withFields]

/-- Names that are new in the third of three lists. -/
theorem append_filter_append (x y z : List String) :
    x ++ (y ++ z.filter (· ∉ y)).filter (· ∉ x) =
      (x ++ y.filter (· ∉ x)) ++ z.filter (· ∉ x ++ y.filter (· ∉ x)) := by
  rw [List.filter_append, List.filter_filter, List.append_assoc]
  congr 2
  refine List.filter_congr fun n _ => ?_
  by_cases hx : n ∈ x <;> by_cases hy : n ∈ y <;> simp [hx, hy]

/-- **Of three tables that are alike, it does not matter which two are laid over each other first.** -/
theorem overlay_assoc (ha : a.Proper) (hb : b.Proper) (hc : c.Proper) (hab : a.Alike b) (hbc : b.Alike c)
    (hac : a.Alike c) : overlay (overlay a b) c = overlay a (overlay b c) := by
  induction hc generalizing a b with
  | @intro c distinct inner ih =>
    have distinctAb := nodup_names_overlay ha.distinct hb.distinct
    have distinctBc := nodup_names_overlay hb.distinct distinct
    refine eq_of_get? (nodup_names_overlay distinctAb distinct) ?_ fun n => ?_
    · rw [names_overlay distinct, names_overlay hb.distinct, names_overlay distinctBc,
        names_overlay distinct, append_filter_append]
    · rw [get?_overlay distinct, get?_overlay hb.distinct, get?_overlay distinctBc, get?_overlay distinct]
      cases third : c.get? n with
      | none => rfl
      | some z =>
        cases second : b.get? n with
        | none => rfl
        | some y =>
          refine congrArg some ?_
          cases first : a.get? n with
          | none => rfl
          | some x =>
            change (x.overlay y).overlay z = x.overlay (y.overlay z)
            have xy : x.Alike y := hab.field first second
            have yz : y.Alike z := hbc.field second third
            have xz : x.Alike z := hac.field first third
            cases isTable : z.table? with
            | none =>
              have replaces (w : Value) : w.overlay z = z := Value.over_of_not_table isTable (some w)
              simp only [replaces]
            | some fz =>
              -- all three are tables, and the law holds of their fields
              have some_ : z.table?.isSome := by rw [isTable]; rfl
              obtain ⟨fx, isTableX⟩ := Option.isSome_iff_exists.mp (xz.isSome_iff.mpr some_)
              obtain ⟨fy, isTableY⟩ := Option.isSome_iff_exists.mp (yz.isSome_iff.mpr some_)
              rw [Value.overlay_of_table isTableX isTableY,
                Value.overlay_of_table (Value.table?_withFields x _) isTable,
                Value.overlay_of_table isTableY isTable,
                Value.overlay_of_table isTableX (Value.table?_withFields y _), Value.withFields_withFields,
                ih n z fz third isTable (ha.inner first isTableX) (hb.inner second isTableY)
                  (Alike.of_table xy isTableX isTableY) (Alike.of_table yz isTableY isTable)
                  (Alike.of_table xz isTableX isTable)]

/-! ### What stands at a path -/

/-- One step along a path below a value that was laid over what stood in its place. -/
theorem at?_covering_cons (isTable : v.table? = some upper) (distinct : upper.names.Nodup)
    (old : Option Value) (n : String) (path : List String) :
    (Value.covering old v).at? (n :: path) =
      match upper.get? n with
      | none => old.bind fun o => o.at? (n :: path)
      | some w => (Value.covering (old.bind fun o => o.fields.get? n) w).at? path := by
  have below : Table.get? (old.elim [] Value.fields) n = old.bind fun o => o.fields.get? n := by
    cases old <;> rfl
  rw [Value.at?, Value.fields_of_table (table?_covering isTable distinct old), get?_overlay distinct, below]
  cases upper.get? n with
  | some w => rfl
  | none => cases old <;> rfl

/-- Behind a value that is no table and was laid over there is nothing. -/
theorem at?_covering_of_cutsOff (proper : Proper v.fields) (cut : v.CutsOff path) (old : Option Value) :
    (Value.covering old v).at? path = none := by
  induction path generalizing v old with
  | nil => exact absurd cut (Value.not_cutsOff_nil v)
  | cons n path ih =>
    rcases Value.cutsOff_cons.mp cut with noTable | ⟨w, field, cut'⟩
    · rw [Value.over_of_not_table noTable, Value.at?_of_cutsOff cut]
    · cases isTable : v.table? with
      | none =>
        rw [Value.fields_of_not_table isTable] at field
        cases field
      | some upper =>
        rw [Value.fields_of_table isTable] at field proper
        rw [at?_covering_cons isTable proper.distinct, field]
        refine ih ?_ cut' _
        have inner := proper.fields n
        rwa [field] at inner

/-- Where something is laid over, it is found over what stood there. -/
theorem at?_covering_of_some (proper : Proper v.fields) (at_ : v.at? path = some w) (old : Option Value) :
    (Value.covering old v).at? path = some (Value.covering (old.bind fun o => o.at? path) w) := by
  induction path generalizing v old with
  | nil =>
    cases at_
    cases old <;> rfl
  | cons n path ih =>
    obtain ⟨u, field, at_⟩ := Option.bind_eq_some_iff.mp at_
    cases isTable : v.table? with
    | none =>
      rw [Value.fields_of_not_table isTable] at field
      cases field
    | some upper =>
      rw [Value.fields_of_table isTable] at field proper
      have inner := proper.fields n
      rw [field] at inner
      rw [at?_covering_cons isTable proper.distinct, field]
      dsimp only
      rw [ih inner at_, Option.bind_assoc]
      rfl

/-- Where nothing is laid over and nothing cuts the path off, what lay below shows. -/
theorem at?_covering_of_none (proper : Proper v.fields) (open_ : ¬ v.CutsOff path)
    (nothing : v.at? path = none) (old : Option Value) :
    (Value.covering old v).at? path = old.bind fun o => o.at? path := by
  induction path generalizing v old with
  | nil => cases nothing
  | cons n path ih =>
    rw [Value.cutsOff_cons, not_or] at open_
    obtain ⟨upper, isTable⟩ := Option.ne_none_iff_exists'.mp open_.1
    rw [Value.fields_of_table isTable] at proper open_
    rw [at?_covering_cons isTable proper.distinct]
    cases field : upper.get? n with
    | none => rfl
    | some w =>
      have inner := proper.fields n
      rw [Value.at?, Value.fields_of_table isTable] at nothing
      rw [field] at inner nothing
      dsimp only
      rw [ih inner (fun cut => open_.2 ⟨w, field, cut⟩) nothing, Option.bind_assoc]
      rfl

/-- An overlay as a value over a value. -/
theorem at?_overlay_eq (base upper : Table) (path : List String) :
    (overlay base upper).at? path = (Value.covering (some (.table base)) (.table upper)).at? path := by
  rw [at?, Value.covering, Option.map_some, Option.getD_some, Value.overlay]

/-- The tables in a proper table are proper. -/
theorem Proper.at? (proper : Proper v.fields) (at_ : v.at? path = some w) : Proper w.fields := by
  induction path generalizing v with
  | nil =>
    cases at_
    exact proper
  | cons n path ih =>
    obtain ⟨u, field, at_⟩ := Option.bind_eq_some_iff.mp at_
    have inner := proper.fields n
    rw [field] at inner
    exact ih inner at_

/-- Where tables meet at a path, the one is laid over the other. -/
theorem holdsTable_overlay (proper : upper.Proper) {x y : Table} (below : base.HoldsTable path x)
    (above : upper.HoldsTable path y) : (overlay base upper).HoldsTable path (overlay x y) := by
  obtain ⟨v, at_, isTable⟩ := below
  obtain ⟨w, at_', isTable'⟩ := above
  have top : Proper (Value.table upper).fields := proper
  refine ⟨_, (at?_overlay_eq base upper path).trans (at?_covering_of_some top at_' _), ?_⟩
  have there : (some (Value.table base)).bind (fun o => o.at? path) = some v := at_
  rw [there]
  change (v.overlay w).table? = _
  rw [Value.overlay_of_table isTable isTable', Value.table?_withFields]

/-- **The algebra of tables laid over each other.** -/
theorem overlay_algebra (ha : a.Proper) (hb : b.Proper) (hc : c.Proper) :
    -- laying over nothing, and nothing over
    overlay a [] = a ∧ overlay [] b = b ∧
    -- laying over itself, and a second time
    overlay a a = a ∧ overlay (overlay a b) b = overlay a b ∧
    -- laying over in two ways
    (a.Alike b → b.Alike c → a.Alike c → overlay (overlay a b) c = overlay a (overlay b c)) ∧
    -- no name is lost, none stands twice, and they stand in order, wherever tables meet
    (overlay a b).Proper ∧
    (∀ path base upper, a.HoldsTable path base → b.HoldsTable path upper →
      (overlay a b).HoldsTable path (overlay base upper) ∧
        (overlay base upper).names = base.names ++ upper.names.filter (· ∉ base.names)) ∧
    -- what is laid over stands where it stood, unless it is a table that meets a table
    (∀ path v, b.at? path = some v → (v.table? = none ∨ ∀ base, ¬ a.HoldsTable path base) →
      (overlay a b).at? path = some v) ∧
    -- behind a value that is laid over and is no table there is nothing
    (∀ path, b.CutsOff path → (overlay a b).at? path = none) ∧
    -- what lies below shows wherever nothing covers it
    ∀ path, b.at? path = none → ¬ b.CutsOff path → (overlay a b).at? path = a.at? path := by
  have top : Proper (Value.table b).fields := hb
  refine ⟨by rw [overlay], overlay_nil_left hb.distinct, overlay_self ha, overlay_overlay_self ha hb,
    overlay_assoc ha hb hc, ha.overlay hb, fun path base upper below above => ?_, fun path v at_ alone => ?_,
    fun path cut => ?_, fun path nothing open_ => ?_⟩
  · obtain ⟨w, at_, isTable⟩ := id above
    have proper := Proper.at? top at_
    rw [Value.fields_of_table isTable] at proper
    exact ⟨holdsTable_overlay hb below above, names_overlay proper.distinct base⟩
  · have there : (some (Value.table a)).bind (fun o => o.at? path) = a.at? path := rfl
    rw [at?_overlay_eq, at?_covering_of_some top at_, there]
    rcases alone with noTable | unmet
    · rw [Value.over_of_not_table noTable]
    · cases below : a.at? path with
      | none => rfl
      | some w =>
        have noTable : w.table? = none :=
          Option.eq_none_iff_forall_ne_some.mpr fun base isTable => unmet base ⟨w, below, isTable⟩
        exact congrArg some (Value.overlay_of_not_table noTable v)
  · rw [at?_overlay_eq, at?_covering_of_cutsOff top cut]
  · rw [at?_overlay_eq, at?_covering_of_none top open_ nothing]
    rfl

/-- A file, an environment and options that share a section: a field of each of them, and one that all but the
options have. -/
theorem overlay_algebra_layers :
    let file : Table := [("client", .table [("timeout", .whole 1), ("max_attempts", .whole 3)]), ("extra", .null)]
    let environment : Table := [("client", .table [("gateway", .text "10.0.0.1"), ("timeout", .whole 2)])]
    let options : Table := [("observability", .table []), ("client", .table [("max_attempts", .whole 4)])]
    overlay (overlay file environment) options = overlay file (overlay environment options) ∧
      (overlay file environment).at? ["client", "max_attempts"] = some (.whole 3) := by
  intro file environment options
  have leaf {v : Value} (h : v.table? = none) : ∀ fields, v.table? = some fields → Proper fields :=
    fun fields isTable => nomatch h.symm.trans isTable
  have table_ {t : Table} (h : t.Proper) : ∀ fields, (Value.table t).table? = some fields → fields.Proper := by
    rintro fields ⟨⟩
    exact h
  have properFile : file.Proper :=
    .cons (.cons .nil (by decide) (leaf rfl)) (by decide)
      (table_ (.cons (.cons .nil (by decide) (leaf rfl)) (by decide) (leaf rfl)))
  have properEnvironment : environment.Proper :=
    .cons .nil (by decide) (table_ (.cons (.cons .nil (by decide) (leaf rfl)) (by decide) (leaf rfl)))
  have properOptions : options.Proper :=
    .cons (.cons .nil (by decide) (table_ (.cons .nil (by decide) (leaf rfl)))) (by decide) (table_ .nil)
  obtain ⟨-, -, -, -, assoc, -, -, -, -, shows⟩ :=
    overlay_algebra properFile properEnvironment properOptions
  refine ⟨assoc ?_ ?_ ?_, shows _ rfl ?_⟩
  · refine .cons (.cons .nil nofun) ?_
    rintro w ⟨⟩
    refine Alike.cons (Alike.cons .nil nofun) ?_
    rintro w ⟨⟩
    exact .of_not_table rfl rfl
  · refine .cons .nil ?_
    rintro w ⟨⟩
    exact Alike.cons (Alike.cons .nil nofun) nofun
  · refine .cons (.cons .nil nofun) ?_
    rintro w ⟨⟩
    refine Alike.cons (Alike.cons .nil ?_) nofun
    rintro w ⟨⟩
    exact .of_not_table rfl rfl
  · simp [CutsOff, Value.cutsOff_cons, Value.not_cutsOff_nil, Value.fields, Value.table?, environment, get?_cons]

/-- A value between two tables keeps them apart only if it is laid over the first one before the other is. -/
example :
    let a : Table := [("client", .table [("timeout", .whole 1)])]
    let b : Table := [("client", .null)]
    let c : Table := [("client", .table [("gateway", .null)])]
    overlay (overlay a b) c = c ∧
      overlay a (overlay b c) = [("client", .table [("timeout", .whole 1), ("gateway", .null)])] := ⟨rfl, rfl⟩

end Table

end PortMap
