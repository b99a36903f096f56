import PortMap.Proofs.Ipv4.RoundTrip
import PortMap.Proofs.Settings.EnvironmentText
import PortMap.Proofs.Settings.Valid
import PortMap.Proofs.Toml.Document
import PortMap.Settings.Store

/-!
# Exported settings are read back

The settings in use are exported as a document, in which those without a value are left out. Read from what was
exported, settings are the same: those that were left out have no value among the defaults either.

## The argument

The document has at each setting the value that the setting shows, if it shows one (`valueIn_toDocument`). What is
read of the document is read field by field. A document that is equal to it, up to the order of its fields and the
signs of zeros, has equal values at each field (`rel_valueIn`), and equal values are read as equal contents
(`exists_read_sameValue`): a check of limits does not see the sign of a zero (`Limits.checkReal_congr`).

## What is proved

* `exports_of_sameDocument` — **whatever document is equal to the exported one is read as the same settings**.
* `export_reads_back` — what is exported is read as such a document whenever the document is carried over by the
  writer and the reader, which is shown of every log file whose name needs no escapes.
-/

namespace PortMap.Settings

open Toml

/-! ### The document -/

/-- The document that settings without unchecked values are exported as. -/
def document (s : Settings) : Table := (Held.mk s []).toDocument

/-- The fields of a section in a document. -/
def sectionOf (s : Settings) (section_ : Section) : Table :=
  Field.tableOf (fun f => (s.value f).present?) section_.fields

variable {s : Settings} {t : Table}

/-- A checked setting is written as it shows. -/
theorem written_value (s : Settings) (f : Field) : f.written (s.value f) = s.value f := by
  cases f with
  | gateway => cases h : s.client.gateway <;> simp [value, h] <;> rfl
  | logFile => cases h : s.observability.logFile <;> simp [value, h] <;> rfl
  | _ => rfl

theorem document_eq (s : Settings) :
    s.document = Section.all.map fun section_ => (section_.name, .table (s.sectionOf section_)) := by
  refine List.map_congr_left fun section_ _ =>
    congrArg (fun fields => (section_.name, Value.table fields)) (List.filterMap_congr fun f _ => ?_)
  have kept := written_value s f
  have shown : (Held.mk s []).value f = s.value f := rfl
  beta_reduce
  rw [shown]
  generalize s.value f = v at kept ⊢
  cases v <;> simp [Value.present?, kept]

/-- The section of a document. -/
theorem get?_document (s : Settings) (section_ : Section) :
    s.document.get? section_.name = some (.table (s.sectionOf section_)) := by
  rw [document_eq]
  cases section_ <;> rfl

/-- **The document has at each setting what the setting shows.** -/
theorem valueIn_document (s : Settings) (f : Field) : f.valueIn s.document = (s.value f).present? := by
  have there : f ∈ f.section_.fields := by cases f <;> decide
  rw [Field.valueIn, Table.fields, get?_document, Option.bind_some, Value.table?, Option.getD_some, sectionOf,
    Field.get?_tableOf, if_pos there]

/-- The names in a document are bare, and its values are of a kind if all values that are shown are. -/
theorem isDocumentOf_document {P : Value → Prop} (h : ∀ f v, (s.value f).present? = some v → P v) :
    IsDocumentOf P s.document := by
  have distinct : (Section.all.map Section.name).Nodup := by decide
  have bareSection (section_ : Section) : IsBare section_.name.toList := by cases section_ <;> decide
  have distinctFields (section_ : Section) : (section_.fields.map Field.name).Nodup := by
    cases section_ <;> decide
  have bare (f : Field) : IsBare f.name.toList := by cases f <;> decide
  rw [document_eq]
  refine ⟨distinct, fun x hx => ?_⟩
  obtain ⟨section_, -, rfl⟩ := List.mem_map.mp hx
  refine ⟨bareSection section_, _, rfl, Field.nodup_names_tableOf (distinctFields section_), fun x hx => ?_⟩
  obtain ⟨f, -, v, shown, rfl⟩ := Field.mem_tableOf.mp hx
  exact ⟨bare f, h f v shown⟩

/-! ### Reading an equal document -/

/-- Two contents of a setting are equal; the zeros of both signs are. -/
def Field.Same : (f : Field) → f.Content → f.Content → Prop
  | .timeout, x, y | .retryBaseDelay, x, y | .retryMaxDelay, x, y => Binary64.same x y = true
  | .gateway, x, y | .maxAttempts, x, y | .retryBackoff, x, y | .mappingLifetime, x, y | .logLevel, x, y
  | .logFile, x, y | .structuredLogging, x, y | .logCorrelationId, x, y => x = y

/-- Two settings are equal field by field. -/
def Same (s s' : Settings) : Prop := ∀ f : Field, f.Same (s.content f) (s'.content f)

theorem Client.WithinBounds.isFinite {c : Client} (h : c.WithinBounds) :
    c.timeout.isFinite = true ∧ c.retryBaseDelay.isFinite = true ∧ c.retryMaxDelay.isFinite = true := by
  obtain ⟨_, timeout, -⟩ := h.timeout
  obtain ⟨_, baseDelay, -⟩ := h.retryBaseDelay
  obtain ⟨_, maxDelay, -⟩ := h.retryMaxDelay
  exact ⟨Binary64.isFinite_iff.mpr ⟨_, timeout⟩, Binary64.isFinite_iff.mpr ⟨_, baseDelay⟩,
    Binary64.isFinite_iff.mpr ⟨_, maxDelay⟩⟩

theorem Same.refl (within : s.client.WithinBounds) : s.Same s := by
  obtain ⟨timeout, baseDelay, maxDelay⟩ := within.isFinite
  intro f
  cases f with
  | timeout => exact Binary64.same_self timeout
  | retryBaseDelay => exact Binary64.same_self baseDelay
  | retryMaxDelay => exact Binary64.same_self maxDelay
  | _ => rfl

/-- A table stands for settings: it is read as equal ones, and there is a gateway and a log file in it if they have
these. -/
structure StandsFor (t : Table) (s : Settings) : Prop where
  /-- Equal settings are read. -/
  reads : ∃ s', ofTable t = .ok s' ∧ s.Same s'
  /-- There is a gateway if there is one among the settings. -/
  gateway : (Field.gateway.valueIn t).isSome ↔ s.client.gateway ≠ none
  /-- There is a log file if there is one among the settings. -/
  logFile : (Field.logFile.valueIn t).isSome ↔ s.observability.logFile ≠ none

/-- Equal numbers pass the same check. -/
theorem Limits.checkReal_congr {l : Limits} {x y : Binary64} (same : x.same y = true)
    (h : l.checkReal x = .ok x) : l.checkReal y = .ok y := by
  simp only [Binary64.same, Bool.and_eq_true, Bool.not_eq_true', decide_eq_true_eq] at same
  obtain ⟨⟨number, number'⟩, units⟩ := same
  have lt (z : Binary64) : y.lt z = x.lt z := by simp only [Binary64.lt, number, number', units]
  have le (z : Binary64) : y.le z = x.le z := by simp only [Binary64.le, number, number', units]
  unfold checkReal at h ⊢
  dsimp only at h ⊢
  rw [lt, le, le]
  split at h
  · cases h
  · split at h
    · rw [if_neg ‹_›, if_pos ‹_›]
    · cases h

/-- What is equal to the value that a setting shows is read as a content that is equal to its own. -/
theorem exists_read_sameValue (within : s.client.WithinBounds) {f : Field} {w : Value}
    (same : SameValue (s.value f) w) : ∃ y, f.read w = .ok y ∧ f.Same (s.content f) y := by
  have reads := read_value within f
  rcases same with rfl | ⟨x, y, shown, rfl, same⟩
  · exact ⟨_, reads, Same.refl within f⟩
  · have read {l : Limits} {z : Binary64} (shown : Value.real z = .real x)
        (reads : readRealWithin l (.real z) = .ok z) :
        readRealWithin l (.real y) = .ok y ∧ z.same y = true := by
      cases shown
      exact ⟨Limits.checkReal_congr same reads, same⟩
    cases f with
    | timeout | retryBaseDelay | retryMaxDelay => exact ⟨y, read shown reads⟩
    | gateway => cases h : s.client.gateway <;> simp [value, h] at shown
    | logFile => cases h : s.observability.logFile <;> simp [value, h] at shown
    | _ => cases shown

/-- At each setting equal documents have equal values. -/
theorem rel_valueIn {t t' : Table} (h : SameDocument t t') (f : Field) :
    Option.Rel SameValue (f.valueIn t) (f.valueIn t') := by
  have section_ := h f.section_.name
  rw [Field.valueIn, Field.valueIn, Table.fields, Table.fields]
  generalize t.get? f.section_.name = v, t'.get? f.section_.name = w at section_ ⊢
  cases section_ with
  | none => exact .none
  | some same =>
    obtain ⟨fields, fields', rfl, rfl, agree⟩ := same
    exact agree f.name

theorem isSome_eq_of_rel {α β : Type} {R : α → β → Prop} {a : Option α} {b : Option β} (h : Option.Rel R a b) :
    a.isSome = b.isSome := by
  cases h <;> rfl

/-- A setting that shows nothing is the default. -/
theorem content_of_absent {f : Field} (h : (s.value f).present? = none) : s.content f = content {} f := by
  cases f with
  | gateway =>
    cases none_ : s.client.gateway with
    | none => exact none_
    | some a => simp [value, none_, Value.present?] at h
  | logFile =>
    cases none_ : s.observability.logFile with
    | none => exact none_
    | some file => simp [value, none_, Value.present?] at h
  | _ => cases h

theorem eq_of_present? {v w : Value} (h : v.present? = some w) : v = w := by
  cases v <;> cases h <;> rfl

/-- **Whatever document is equal to the exported one is read as the same settings.** -/
theorem standsFor_of_sameDocument (within : s.client.WithinBounds) (h : SameDocument s.document t) :
    StandsFor t s := by
  have equal (f : Field) : Option.Rel SameValue (s.value f).present? (f.valueIn t) :=
    valueIn_document s f ▸ rel_valueIn h f
  have readable : ∀ section_ : Section, section_.Readable t := by
    intro section_ v found
    have there := h section_.name
    rw [get?_document, found] at there
    obtain ⟨_, fields, -, rfl, -⟩ := there
    rfl
  have contents (f : Field) : ∃ y, f.validate (f.valueIn t) = .ok y ∧ f.Same (s.content f) y := by
    have value := equal f
    generalize f.valueIn t = place at value
    generalize shown : (s.value f).present? = v at value
    cases value with
    | none => exact ⟨_, rfl, content_of_absent shown ▸ Same.refl within f⟩
    | some same => exact exists_read_sameValue within (eq_of_present? shown ▸ same)
  choose x valid same using contents
  refine ⟨⟨ofContents x, ofTable_eq_ok_iff.mpr ⟨readable, fun f => ?_⟩, fun f => ?_⟩, ?_, ?_⟩
  · rw [valid, content_ofContents]
  · rw [content_ofContents]
    exact same f
  · rw [← isSome_eq_of_rel (equal .gateway)]
    cases h : s.client.gateway <;> simp [value, h, Value.present?]
  · rw [← isSome_eq_of_rel (equal .logFile)]
    cases h : s.observability.logFile <;> simp [value, h, Value.present?]

/-! ### Kinds of values -/

/-- A value that documents are made for: a flag, a whole number, a finite real number, or a text. -/
inductive IsSimple : Value → Prop
  /-- A flag. -/
  | flag (b : Bool) : IsSimple (.flag b)
  /-- A whole number. -/
  | whole (n : ℤ) : IsSimple (.whole n)
  /-- A finite real number. -/
  | real {x : Binary64} : x.isFinite = true → IsSimple (.real x)
  /-- A text. -/
  | text (s : String) : IsSimple (.text s)

/-- The text of an address needs no escapes. -/
theorem isPlainText_address (a : Address) : IsPlainText a.text.toList := by
  have digits (n : ℕ) : ∀ c ∈ Decimal.digitChars n, Text.isPrintable c = true ∧ c ≠ '"' ∧ c ≠ '\\' := fun c hc =>
    forall_digitChar (P := fun c => Text.isPrintable c = true ∧ c ≠ '"' ∧ c ≠ '\\') (by decide)
      (isPlainDigit_of_mem_digitChars hc)
  have point : Text.isPrintable '.' = true ∧ '.' ≠ '"' ∧ '.' ≠ '\\' := by decide
  rw [Address.text, String.toList_ofList, Address.chars]
  simp only [IsPlainText, List.forall_mem_append, List.forall_mem_cons]
  exact ⟨digits _, point, digits _, point, digits _, point, digits _⟩

/-- Settings within bounds show flags, short whole numbers, finite real numbers and texts, of which only the name of
the log file may need escapes. -/
theorem isPlain_value (within : s.client.WithinBounds) {f : Field} {v : Value} (shown : (s.value f).present? = some v)
    (file : f = .logFile → ∀ name ∈ s.observability.logFile, IsPlainText name.toList) : IsPlain v := by
  obtain rfl := eq_of_present? shown
  obtain ⟨timeout, baseDelay, maxDelay⟩ := within.isFinite
  obtain ⟨least, most⟩ := within.maxAttempts
  obtain ⟨nonneg, small⟩ := within.mappingLifetime
  cases f with
  | gateway =>
    cases gateway : s.client.gateway with
    | none => simp [value, gateway, Value.present?] at shown
    | some a => simpa [value, gateway] using IsPlain.text (isPlainText_address a)
  | timeout => exact .real timeout
  | retryBaseDelay => exact .real baseDelay
  | retryMaxDelay => exact .real maxDelay
  | maxAttempts => exact .whole (length_digitChars_le (by omega) (by omega))
  | mappingLifetime => exact .whole (length_digitChars_le nonneg small)
  | logLevel =>
    have plain (l : Log.Level) : IsPlainText l.name.toList := by cases l <;> decide
    exact .text (plain s.observability.logLevel)
  | logFile =>
    cases name : s.observability.logFile with
    | none => simp [value, name, Value.present?] at shown
    | some text => simpa [value, name] using IsPlain.text (file rfl text name)
  | retryBackoff | structuredLogging | logCorrelationId => exact .flag _

theorem isSimple_value (within : s.client.WithinBounds) {f : Field} {v : Value} (shown : (s.value f).present? = some v) :
    IsSimple v := by
  by_cases file : f = .logFile
  · subst file
    obtain rfl := eq_of_present? shown
    cases name : s.observability.logFile with
    | none => simp [value, name, Value.present?] at shown
    | some text => simpa [value, name] using IsSimple.text text
  · cases isPlain_value within shown fun h => absurd h file with
    | flag b => exact .flag b
    | whole => exact .whole _
    | real finite => exact .real finite
    | text => exact .text _

/-! ### The export -/

/-- **What is exported is read back.** The document of settings that were read from a table consists of sections with
flags, whole numbers, finite real numbers and texts. Whatever equal document is read back for it stands for the
settings: equal ones are read from it, and it has a gateway and a log file exactly if these have. The text that is
exported is read in this way if the document is carried over, and it is carried over if the name of the log file,
if there is one, needs no escapes. -/
theorem export_reads_back {store : Store} {l : Loaded} (loaded : store.loaded = some l) (held : l.held = ⟨s, []⟩)
    (valid : s.Valid) :
    IsDocumentOf IsSimple s.document ∧
    (∀ t, SameDocument s.document t → StandsFor t s) ∧
    (CarriesOver Toml.write Toml.read s.document →
      ∃ text t, store.export_ = (.ok text, store) ∧ Toml.read text.toList = .ok t ∧ StandsFor t s) ∧
    ((∀ name ∈ s.observability.logFile, IsPlainText name.toList) →
      CarriesOver Toml.write Toml.read s.document) := by
  have within := valid.withinBounds
  refine ⟨isDocumentOf_document fun f v => isSimple_value within, fun t => standsFor_of_sameDocument within, ?_,
    fun file => carriesOver_of_plain (isDocumentOf_document fun f v shown => isPlain_value within shown fun _ => file)⟩
  rintro ⟨text, t, written, reads, same⟩
  refine ⟨text, t, ?_, reads, standsFor_of_sameDocument within same⟩
  have exported : Toml.write l.held.toDocument = .ok text := held ▸ written
  simp only [Store.export_, Store.get, loaded, exported]

/-- A gateway, a log file and a delay that is zero with a minus sign are read back. -/
theorem export_reads_back_log_file :
    let s : Settings :=
      { client := { gateway := some ⟨192, 168, 1, 1⟩, retryBaseDelay := .zero true },
        observability := { logFile := some "/var/log/nat=pmp.log" } }
    let store : Store := { tree := ⟨"", ["cwd"], ["home"], [], [[]]⟩, loaded := some ⟨none, ⟨s, []⟩⟩ }
    ∃ text t, store.export_ = (.ok text, store) ∧ Toml.read text.toList = .ok t ∧
      (∃ s', ofTable t = .ok s' ∧ s.Same s') ∧ (Field.gateway.valueIn t).isSome ∧ (Field.logFile.valueIn t).isSome := by
  intro s store
  have zero : (Binary64.zero true).rational? = some 0 := by simp [Binary64.zero, Binary64.rational?]
  have standing := Client.withinBounds_default
  have within : s.client.WithinBounds :=
    ⟨standing.timeout, standing.maxAttempts, ⟨0, zero, le_rfl, by norm_num⟩, standing.retryMaxDelay,
      standing.mappingLifetime, fun a _ => Address.ofValue_text a⟩
  obtain ⟨-, -, exported, carried⟩ := export_reads_back (rfl : store.loaded = some ⟨none, ⟨s, []⟩⟩) rfl (valid_iff.mpr within)
  have plain : ∀ name ∈ s.observability.logFile, Toml.IsPlainText name.toList := fun name named =>
    Option.some.inj named ▸ (by decide : Toml.IsPlainText "/var/log/nat=pmp.log".toList)
  obtain ⟨text, t, written, read, stands⟩ := exported (carried plain)
  exact ⟨text, t, written, read, stands.reads, stands.gateway.mpr (Option.some_ne_none _),
    stands.logFile.mpr (Option.some_ne_none _)⟩

end PortMap.Settings
