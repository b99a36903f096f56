import Mathlib.Data.List.Induction
import Mathlib.Data.List.Nodup
import PortMap.Proofs.Toml.Line
import PortMap.Toml.Reader
import PortMap.Toml.Writer

/-!
# Documents of sections

A table of sections, each of them a table of plain values under bare names, is read back from what is written of
it (`read_write`), but for the signs of zeros.

## The argument

`Sections` says which lines stand for which table, one section after the other, each a header and the lines of its
fields (`Fields`). What is written consists of such lines (`exists_sections_of_write`): an empty line may stand
before a header. While such lines are read, the draft holds the table that the lines so far stand for, and the
path to the section opened last: a header opens a section at the end of the table (`next_header`), and the line of
a field puts the field at the end of that section (`next_field`).
-/

namespace PortMap

open Text

namespace Toml

/-! ### Lines for tables -/

/-- The lines of fields. -/
inductive Fields : List (List Char) → Table → Prop
  /-- Without fields there are none. -/
  | nil : Fields [] []
  /-- Another field has a line at the end. -/
  | snoc {ls : List (List Char)} {fields : Table} {name : String} {s : List Char} {v : Value} : Fields ls fields →
      IsBare name.toList → name ∉ fields.names → Literal s v →
      Fields (ls ++ [fieldLine name s]) (fields ++ [(name, v)])

/-- The lines of sections. -/
inductive Sections : List (List Char) → Table → Prop
  /-- Without sections there are none. -/
  | nil : Sections [] []
  /-- An empty line changes nothing. -/
  | gap {ls : List (List Char)} {t : Table} : Sections ls t → Sections (ls ++ [[]]) t
  /-- Another section has a header and lines for its fields. -/
  | snoc {ls fieldLines : List (List Char)} {t fields : Table} {name : String} : Sections ls t →
      IsBare name.toList → name ∉ t.names → Fields fieldLines fields →
      Sections (ls ++ headerLine name :: fieldLines) (t ++ [(name, .table fields)])

variable {ls : List (List Char)} {t fields : Table} {name : String} {s : List Char} {v : Value}

theorem Fields.line (h : Fields ls fields) : ∀ l ∈ ls, Line l := by
  induction h with
  | nil => exact nofun
  | snoc _ bare _ literal ih =>
    exact List.forall_mem_append.mpr ⟨ih, List.forall_mem_singleton.mpr (.field bare literal.standing)⟩

theorem Sections.line (h : Sections ls t) : ∀ l ∈ ls, Line l := by
  induction h with
  | nil => exact nofun
  | gap _ ih => exact List.forall_mem_append.mpr ⟨ih, List.forall_mem_singleton.mpr .empty⟩
  | snoc _ bare _ fields ih =>
    exact List.forall_mem_append.mpr ⟨ih, List.forall_mem_cons.mpr ⟨.header bare, fields.line⟩⟩

/-! ### Reading -/

theorem foldlM_concat {α β : Type} {f : β → α → Except Fault β} {l : List α} {b b' : β}
    (h : l.foldlM f b = .ok b') (a : α) : (l ++ [a]).foldlM f b = f b' a := by
  rw [List.foldlM_append, h]
  exact bind_pure (m := Except Fault) _

namespace Draft

/-- A draft with a table and a path, to which no other tables belong. -/
def at_ (t : Table) (path : List Step) : Draft := { root := .table t, opened := ⟨path, []⟩ }

theorem next_gap (path : List Step) : (at_ t path).next [] = .ok (at_ t path) := rfl

/-- A line that ends where its text ends is read as it is. -/
theorem next_of_strip {l : List Char} (h : strip l = l) (path : List Step) :
    (at_ t path).next l = (at_ t path).readLine l :=
  congrArg (at_ t path).readLine h

theorem next_header (bare : IsBare name.toList) (new : name ∉ t.names) (path : List Step) :
    (at_ t path).next (headerLine name) = .ok (at_ (t ++ [(name, .table [])]) [.field name]) := by
  rw [next_of_strip (strip_headerLine name), headerLine, readLine, readHeader_bare bare]
  dsimp only [at_]
  rw [openHeader_new bare new]
  rfl

/-- A line that begins with a bare name and has an equals sign is read as the line of a field. -/
theorem readLine_fieldLine (d : Draft) (bare : IsBare name.toList) (s : List Char) :
    d.readLine (fieldLine name s) =
      (d.atLevel (readEntry (fuelFor (fieldLine name s)) (fieldLine name s))).map fun (d, pending) =>
        { d with pending := pending } := by
  obtain ⟨c, a, chars⟩ := List.exists_cons_of_ne_nil bare.1
  have line : fieldLine name s = c :: (a ++ ' ' :: '=' :: ' ' :: s) := by
    rw [fieldLine, chars]
    rfl
  have there : c ∈ name.toList := chars ▸ List.mem_cons_self
  have noBrace : c ≠ '{' := fun same => bare.notMem rfl (same ▸ there)
  have equals : (fieldLine name s).contains '=' = true := by simp [fieldLine]
  rw [line] at equals ⊢
  unfold readLine
  split
  · rename_i none_
    cases none_
  · rename_i front
    exact absurd ((List.cons.inj front).1 ▸ there) (bare.notMem rfl)
  · rename_i front
    rw [← (List.cons.inj front).1, if_neg noBrace, if_pos equals]

/-- What is done at the level of the section opened last is done to that section. -/
theorem atLevel_last {α : Type} {sec : String} (newest : sec ∉ t.names) {f : Value → Except Fault (Value × α)}
    {fields' : Table} {a : α} (does : f (.table fields) = .ok (.table fields', a)) :
    (at_ (t ++ [(sec, .table fields)]) [.field sec]).atLevel f =
      .ok (at_ (t ++ [(sec, .table fields')]) [.field sec], a) := by
  simp only [atLevel, at_]
  rw [follow_last newest does]
  rfl

theorem next_field (bare : IsBare name.toList) (new : name ∉ fields.names) (literal : Literal s v) {sec : String}
    (newest : sec ∉ t.names) :
    (at_ (t ++ [(sec, .table fields)]) [.field sec]).next (fieldLine name s) =
      .ok (at_ (t ++ [(sec, .table (fields ++ [(name, v)]))]) [.field sec]) := by
  have entry := readEntry_field bare new literal (4 * (fieldLine name s).length + 14)
  rw [next_of_strip (strip_fieldLine bare literal), readLine_fieldLine _ bare]
  exact congrArg (Except.map _) (atLevel_last newest entry)

/-- The lines of fields put them into the section that was opened last. -/
theorem foldlM_fields (h : Fields ls fields) {sec : String} (newest : sec ∉ t.names) :
    ls.foldlM next (at_ (t ++ [(sec, .table [])]) [.field sec]) =
      .ok (at_ (t ++ [(sec, .table fields)]) [.field sec]) := by
  induction h with
  | nil => rfl
  | snoc _ bare new literal ih =>
    rw [foldlM_concat ih, next_field bare new literal newest]

/-- **The lines of sections are read as these sections.** -/
theorem foldlM_sections (h : Sections ls t) : ∃ path, ls.foldlM next {} = .ok (at_ t path) := by
  induction h with
  | nil => exact ⟨[], rfl⟩
  | gap _ ih =>
    obtain ⟨path, reads⟩ := ih
    exact ⟨path, (foldlM_concat reads []).trans (next_gap path)⟩
  | @snoc _ _ _ _ name _ bare new fields ih =>
    obtain ⟨path, reads⟩ := ih
    refine ⟨[.field name], ?_⟩
    rw [List.foldlM_append, reads]
    have header := next_header bare new path
    calc (headerLine name :: _).foldlM next (at_ _ path)
      _ = (at_ _ path).next (headerLine name) >>= fun d => List.foldlM next d _ := List.foldlM_cons
      _ = _ := by
        rw [header]
        exact foldlM_fields fields new

end Draft

/-- **A document of sections is read as the table of these.** -/
theorem read_terminated (h : Sections ls t) : read (terminated ls) = .ok t := by
  obtain ⟨path, reads⟩ := Draft.foldlM_sections (.gap h)
  rw [read, layOut_terminated h.line]
  dsimp only
  rw [splitAt_terminated fun l hl => (h.line l hl).noBreak, reads]
  rfl

/-! ### Tables that are written -/

/-- A table with distinct bare names and values of a kind. -/
structure IsTableOf (P : Value → Prop) (t : Table) : Prop where
  /-- Each name is there once. -/
  distinct : t.names.Nodup
  /-- The names are bare, and the values of the kind. -/
  field : ∀ x ∈ t, IsBare x.1.toList ∧ P x.2

/-- A table of tables with values of a kind. -/
def IsDocumentOf (P : Value → Prop) : Table → Prop := IsTableOf fun v => ∃ fields, v = .table fields ∧ IsTableOf P fields

/-- The table with each of its values changed. -/
def mapValues (f : Value → Value) (t : Table) : Table := t.map fun x => (x.1, f x.2)

/-- A section with the signs of zeros taken away. -/
def unsignedSection : Value → Value
  | .table fields => .table (mapValues unsigned fields)
  | v => v

variable {P : Value → Prop}

theorem isTableOf_concat : IsTableOf P (t ++ [(name, v)]) ↔
    IsTableOf P t ∧ name ∉ t.names ∧ IsBare name.toList ∧ P v := by
  have names : Table.names (t ++ [(name, v)]) = t.names ++ [name] := List.map_append
  constructor
  · rintro ⟨distinct, field⟩
    rw [names, List.nodup_append_comm, List.singleton_append, List.nodup_cons] at distinct
    rw [List.forall_mem_append, List.forall_mem_singleton] at field
    exact ⟨⟨distinct.2, field.1⟩, distinct.1, field.2⟩
  · rintro ⟨⟨distinct, field⟩, new, last⟩
    refine ⟨?_, List.forall_mem_append.mpr ⟨field, List.forall_mem_singleton.mpr last⟩⟩
    rw [names, List.nodup_append_comm, List.singleton_append, List.nodup_cons]
    exact ⟨new, distinct⟩

theorem mapValues_concat (f : Value → Value) (t : Table) (name : String) (v : Value) :
    mapValues f (t ++ [(name, v)]) = mapValues f t ++ [(name, f v)] :=
  List.map_append

theorem names_mapValues (f : Value → Value) (t : Table) : (mapValues f t).names = t.names := by
  rw [mapValues, Table.names, List.map_map]
  rfl

theorem get?_mapValues (f : Value → Value) (t : Table) (n : String) :
    (mapValues f t).get? n = (t.get? n).map f := by
  induction t with
  | nil => rfl
  | cons x t ih =>
    rw [mapValues, List.map_cons, Table.get?_cons, Table.get?_cons]
    split
    · rfl
    · exact ih

/-! ### Writing -/

theorem nameLiteral_bare (bare : IsBare name.toList) : nameLiteral name = .ok name := by
  have noBreak : name.toList.getLast? ≠ some '\n' := fun h => bare.notMem rfl (List.mem_of_getLast? h)
  have isBare : isBareName name.toList = true := by
    rw [isBareName, if_neg noBreak, Bool.and_eq_true, Bool.not_eq_true', List.isEmpty_eq_false_iff, List.all_eq_true]
    exact bare
  rw [nameLiteral, if_pos isBare]

/-- A plain value is written on a line of its own. -/
theorem exists_addField (bare : IsBare name.toList) (plain : IsPlain v) (inner : String → Table → Except Fault Part)
    (fuel : ℕ) (path : String) (p : Part) :
    ∃ s : String, Literal s.toList (unsigned v) ∧
      addField inner fuel path p name v = .ok { p with lines := p.lines ++ name ++ " = " ++ s ++ "\n" } := by
  obtain ⟨s, written, literal⟩ := exists_literal plain
  refine ⟨s, literal, ?_⟩
  rw [addField, nameLiteral_bare bare]
  cases plain <;> simp [tablesAmong?, written, Except.map]

theorem part_concat {fuel : ℕ} {path : String} {p : Part} (h : part (fuel + 1) path fields = .ok p) :
    part (fuel + 1) path (fields ++ [(name, v)]) = addField (part fuel) fuel path p name v := by
  rw [part] at h ⊢
  exact foldlM_concat h _

/-- **What is written of a section are the lines of its fields.** -/
theorem exists_fields_of_part (h : IsTableOf IsPlain fields) (fuel : ℕ) (path : String) :
    ∃ (lines : String) (ls : List (List Char)), part (fuel + 1) path fields = .ok { lines := lines } ∧
      lines.toList = terminated ls ∧ Fields ls (mapValues unsigned fields) := by
  induction fields using List.reverseRecOn with
  | nil => exact ⟨"", [], rfl, rfl, .nil⟩
  | append_singleton fields x ih =>
    obtain ⟨name, v⟩ := x
    obtain ⟨before, new, bare, plain⟩ := isTableOf_concat.mp h
    obtain ⟨lines, ls, written, text, shown⟩ := ih before
    obtain ⟨s, literal, added⟩ := exists_addField bare plain (part fuel) fuel path { lines := lines }
    refine ⟨lines ++ name ++ " = " ++ s ++ "\n", ls ++ [fieldLine name s.toList], ?_, ?_, ?_⟩
    · rw [part_concat written, added]
    · rw [terminated_append, terminated_cons, ← text]
      simp [fieldLine, terminated]
    · rw [mapValues_concat]
      exact shown.snoc bare (by rwa [names_mapValues]) literal

/-- The outermost table has no lines of its own. -/
theorem part_document (h : IsDocumentOf P t) (fuel : ℕ) : part (fuel + 1) "" t = .ok { tables := t } := by
  induction t using List.reverseRecOn with
  | nil => rfl
  | append_singleton t x ih =>
    obtain ⟨name, v⟩ := x
    obtain ⟨before, new, bare, fields, rfl, -⟩ := isTableOf_concat.mp h
    rw [part_concat (ih before), addField, nameLiteral_bare bare]
    simp only [Table.put_of_notMem new]

/-- A section is added with a header, and with an empty line before it or none. -/
theorem toList_addSection (text name lines : String) :
    ∃ gap, (gap = [] ∨ gap = [[]]) ∧ (addSection text name { lines := lines }).toList =
      text.toList ++ terminated (gap ++ [headerLine name]) ++ lines.toList := by
  have section_ : addSection text name { lines := lines } =
      text ++ (if text = "" || text.endsWith "\n\n" then "" else "\n") ++ "[" ++ name ++ "]\n" ++ (lines ++ "") := by
    rw [addSection, if_neg (by simp)]
    rfl
  rw [section_]
  split
  · exact ⟨[], .inl rfl, by simp [terminated, headerLine]⟩
  · exact ⟨[[]], .inr rfl, by simp [terminated, headerLine]⟩

/-- One table of a level. -/
def addTable (inner : String → Table → Except Fault Part) (add : String → String → Part → String) (path : String) :
    String × Table → String × Value → Except Fault (String × Table) :=
  fun (text, next) (name, v) =>
    (inner (path ++ name ++ ".") (v.table?.getD [])).map fun p =>
      (add text (path ++ name) p, p.tables.foldl (fun next (inner, w) => Table.put next (name ++ "." ++ inner) w) next)

theorem writeLevels_succ (inner : String → Table → Except Fault Part) (add : String → String → Part → String)
    (path : String) (fuel : ℕ) (text : String) (t : Table) :
    writeLevels inner add path (fuel + 1) text t =
      match t.foldlM (addTable inner add path) (text, []) with
      | .error e => .error e
      | .ok (text, []) => .ok text
      | .ok (text, next) => writeLevels inner add path fuel text next := rfl

/-- The sections of a level are written one after the other, and no level follows. -/
theorem exists_sections_of_level (h : IsDocumentOf IsPlain t) (fuel : ℕ) :
    ∃ (text : String) (ls : List (List Char)),
      t.foldlM (addTable (part (fuel + 1)) addSection "") ("", []) = .ok (text, []) ∧
        text.toList = terminated ls ∧ Sections ls (mapValues unsignedSection t) := by
  induction t using List.reverseRecOn with
  | nil => exact ⟨"", [], rfl, rfl, .nil⟩
  | append_singleton t x ih =>
    obtain ⟨name, v⟩ := x
    obtain ⟨before, new, bare, fields, rfl, plain⟩ := isTableOf_concat.mp h
    obtain ⟨text, ls, written, form, shown⟩ := ih before
    obtain ⟨lines, fieldLines, section_, formOfLines, shownFields⟩ :=
      exists_fields_of_part plain fuel ("" ++ name ++ ".")
    obtain ⟨gap, small, added⟩ := toList_addSection text name lines
    refine ⟨addSection text name { lines := lines }, (ls ++ gap) ++ headerLine name :: fieldLines, ?_, ?_, ?_⟩
    · rw [foldlM_concat written]
      simp only [addTable, Value.table?, Option.getD_some]
      rw [section_]
      simp [Except.map]
    · rw [added, form, formOfLines]
      simp [terminated]
    · rw [mapValues_concat]
      refine Sections.snoc ?_ bare (by rwa [names_mapValues]) shownFields
      rcases small with rfl | rfl
      · rwa [List.append_nil]
      · exact shown.gap

/-- **A document of plain sections is read back from what is written of it**, but for the signs of zeros. -/
theorem read_write (h : IsDocumentOf IsPlain t) :
    ∃ text, write t = .ok text ∧ read text.toList = .ok (mapValues unsignedSection t) := by
  obtain ⟨text, ls, written, form, shown⟩ := exists_sections_of_level h (depthOfFields t)
  refine ⟨text, ?_, ?_⟩
  · rw [write, part_document h]
    have level : writeLevels (part (depthOfFields t + 1)) addSection "" (depthOfFields t + 1) "" t = .ok text := by
      rw [writeLevels_succ, written]
    exact level
  · rw [form, read_terminated shown]

/-! ### Equal documents -/

/-- Two values are equal; the zeros of both signs are. -/
def SameValue (v w : Value) : Prop := w = v ∨ ∃ x y : Binary64, v = .real x ∧ w = .real y ∧ x.same y = true

/-- Two tables have the same names, in whatever order, and values in a relation under these. -/
def Agree (R : Value → Value → Prop) (t t' : Table) : Prop := ∀ n, Option.Rel R (t.get? n) (t'.get? n)

/-- Two documents of sections are equal. -/
def SameDocument : Table → Table → Prop :=
  Agree fun v w => ∃ fields fields', v = .table fields ∧ w = .table fields' ∧ Agree SameValue fields fields'

/-- A writer and a reader of documents carry a document over: it is written, and what was written is read as an
equal document. -/
def CarriesOver (write : Table → Except Fault String) (read : List Char → Except Fault Table) (t : Table) : Prop :=
  ∃ text t', write t = .ok text ∧ read text.toList = .ok t' ∧ SameDocument t t'

theorem agree_mapValues {R : Value → Value → Prop} {f : Value → Value}
    (h : ∀ n v, t.get? n = some v → R v (f v)) : Agree R t (mapValues f t) := by
  intro n
  rw [get?_mapValues]
  cases found : t.get? n with
  | none => exact .none
  | some v => exact .some (h n v found)

/-- **A document of plain sections is carried over.** -/
theorem carriesOver_of_plain (h : IsDocumentOf IsPlain t) : CarriesOver write read t := by
  obtain ⟨text, written, reads⟩ := read_write h
  refine ⟨text, _, written, reads, agree_mapValues fun n v found => ?_⟩
  obtain ⟨-, fields, rfl, plain⟩ := h.field _ (Table.mem_of_get? found)
  refine ⟨fields, _, rfl, rfl, agree_mapValues fun n v found => ?_⟩
  cases (plain.field _ (Table.mem_of_get? found)).2 with
  | flag | whole | text => exact .inl rfl
  | real finite => exact .inr ⟨_, _, rfl, rfl, Binary64.same_unsignedZero finite⟩

end Toml

end PortMap
