import PortMap.Proofs.Numeral.DecimalText
import PortMap.Proofs.Settings.Bounds
import PortMap.Proofs.Settings.Lifecycle

/-!
# Settings written into the environment

Settings can be written into the environment, each as the text of its own variable: numbers in their decimal
form, truth values and the log level as words in any case of letters, the gateway and the log file as they
are (`Field.Writes`). This module shows that settings that are written in this way are loaded back, whatever
the file says.

## The argument

The text of a variable is typed by what it looks like, and then read by the reader of its setting. For each
kind of text the two steps together undo the writing (`read_typed`): a whole number is typed as one
(`typeFree_repr`); a real number is typed as one if it has a point, and stays text without one, from
which the reader takes it (`readReal_typeFree_text`); a word for a truth value is typed as one in any case
(`typeFree_of_respells`). Where all variables are set, the file has no say (`ofSources_eq_ok_iff`).

## What is proved

* `read_typed` — what is written of a setting is read back, setting by setting.
* `environment_round_trip` — **settings that are written into the environment are loaded back**, with any
  file that can be loaded at all.
-/

namespace PortMap.Settings

open Disk Text

/-! ### Words in any case -/

/-- A text is a word with each of its letters in either case. -/
def Respells (word text : String) : Prop :=
  List.Forall₂ (fun l c => c = l.toLower ∨ c = l.toUpper) word.toList text.toList

instance (word text : String) : Decidable (Respells word text) :=
  inferInstanceAs (Decidable (List.Forall₂ _ _ _))

/-- What undoes the case of each letter finds the word again. -/
theorem flatMap_of_respells {word text : String} {f : Char → List Char} (h : Respells word text)
    (undoes : ∀ l ∈ word.toList, f l.toLower = [l] ∧ f l.toUpper = [l]) :
    text.toList.flatMap f = word.toList := by
  unfold Respells at h
  generalize word.toList = ls, text.toList = cs at h undoes ⊢
  induction h with
  | nil => rfl
  | @cons l c ls cs spells _ ih =>
    obtain ⟨lower, upper⟩ := undoes l List.mem_cons_self
    have first : f c = [l] := by
      rcases spells with rfl | rfl
      · exact lower
      · exact upper
    rw [List.flatMap_cons, first, ih fun x hx => undoes x (List.mem_cons_of_mem l hx)]
    rfl

/-- The words for a truth value in the environment. -/
def flagSpellings : Bool → List String
  | true => ["true", "yes", "on"]
  | false => ["false", "no", "off"]

/-- **A word for a truth value is typed as the value**, in any case of letters. -/
theorem typeFree_of_respells {b : Bool} {word text : String} (hw : word ∈ flagSpellings b)
    (h : Respells word text) : Environment.typeFree text = .flag b := by
  have known : ∀ b, ∀ word ∈ flagSpellings b, Environment.flagWords.lookup word = some b ∧
      word.toList.all (fun l => [l.toLower.toLower] = [l] ∧ [l.toUpper.toLower] = [l]) := by
    decide
  obtain ⟨means, undoes⟩ := known b word hw
  have lower : String.ofList (text.toList.map Char.toLower) = word := by
    rw [List.map_eq_flatMap, flatMap_of_respells h (List.all_iff_forall_prop.mp undoes), String.ofList_toList]
  rw [Environment.typeFree, lower, means]

/-- The name of a level is put into capitals from any case of letters. -/
theorem upperCase_of_respells {l : Log.Level} {text : String} (h : Respells l.name text) :
    upperCase text = l.name := by
  have undoes : l.name.toList.all fun c => upperChar c.toLower = [c] ∧ upperChar c.toUpper = [c] := by
    cases l <;> decide
  rw [upperCase, flatMap_of_respells h (List.all_iff_forall_prop.mp undoes), String.ofList_toList]

/-! ### Numbers -/

/-- A text that begins like a number is no word for a truth value. -/
theorem lookup_flagWords_of_head {c : Char} {t : List Char} (h : isPlainDigit c = true ∨ c = '-') :
    Environment.flagWords.lookup (String.ofList ((c :: t).map Char.toLower)) = none := by
  have initials : ∀ w ∈ Environment.flagWords,
      w.1.toList.head?.map (fun l => isPlainDigit l || l == '-') = some false := by
    decide
  have same : c.toLower = c := by
    rcases h with digit | rfl
    · exact (digit_plain digit).1
    · rfl
  rw [List.lookup_eq_none_iff]
  intro w hw
  rw [bne_iff_ne]
  intro word
  have initial := initials w hw
  rw [← word, String.toList_ofList, List.map_cons, same, List.head?_cons, Option.map_some,
    Option.some.injEq, Bool.or_eq_false_iff, beq_eq_false_iff_ne] at initial
  rcases h with digit | sign
  · cases initial.1.symm.trans digit
  · exact initial.2 sign

/-- The written form of a finite number begins like a number. -/
theorem exists_toList_text_eq {x : Binary64} (finite : x.isFinite = true) :
    ∃ c t, x.text.toList = c :: t ∧ (isPlainDigit c = true ∨ c = '-') := by
  obtain ⟨s, d, form, numeral, -⟩ := Binary64.renderChars_form Binary64.plainStyle finite
  obtain ⟨c, t, rfl, digit⟩ := numeral.head
  rw [Binary64.text, Binary64.render, String.toList_ofList, form]
  cases x.isNegative with
  | true => exact ⟨'-', c :: t, rfl, .inr rfl⟩
  | false => exact ⟨c, t, rfl, .inl digit⟩

/-- **The written form of a finite number is typed and read back as the number**, with a point or without. -/
theorem readReal_typeFree_text {x : Binary64} (finite : x.isFinite = true) :
    readReal (Environment.typeFree x.text) = .ok x := by
  obtain ⟨c, t, begins, numeric⟩ := exists_toList_text_eq finite
  have chars : x.text.toList = x.renderChars Binary64.plainStyle := String.toList_ofList
  have noWord : Environment.flagWords.lookup (String.ofList (x.text.toList.map Char.toLower)) = none := by
    rw [begins]
    exact lookup_flagWords_of_head numeric
  rw [Environment.typeFree, noWord]
  simp only [chars, Binary64.readFloat?_renderChars finite, Option.map_some, Option.getD_some]
  split
  · rfl
  · rename_i noPoint
    rw [List.contains_iff_mem] at noPoint
    -- without a point it is no whole number either, and stays text
    rw [(Binary64.pointed_or_readInt?_eq_none finite).resolve_left noPoint, Option.map_none, Option.getD_none]
    simp only [readReal, chars, readRealNumeral?, Binary64.trim_renderChars finite,
      Binary64.readReal?_renderChars _ finite]

/-- The written form of a whole number is a word for nothing else, and has no point. -/
theorem repr_plain (n : Int) :
    Environment.flagWords.lookup (String.ofList (n.repr.toList.map Char.toLower)) = none ∧
      n.repr.toList.contains '.' = false := by
  have digits : ∀ c ∈ Decimal.digitChars n.natAbs, isPlainDigit c = true :=
    fun _ => isPlainDigit_of_mem_digitChars
  have noPoint : '.' ∉ Decimal.digitChars n.natAbs := fun point => by
    cases digits _ point
  rw [toList_repr]
  obtain ⟨c, t, begins⟩ := List.exists_cons_of_ne_nil (Decimal.digitChars_ne_nil n.natAbs)
  cases decide (n < 0) with
  | true => exact ⟨lookup_flagWords_of_head (.inr rfl), by simpa using noPoint⟩
  | false =>
    refine ⟨?_, by simpa using noPoint⟩
    rw [begins]
    exact lookup_flagWords_of_head (.inl (digits c (begins ▸ List.mem_cons_self)))

/-- **A whole number is typed as this number**, and stays text if it is too long. -/
theorem typeFree_repr (n : Int) :
    Environment.typeFree n.repr =
      if maxDigits < (Decimal.digitChars n.natAbs).length then .text n.repr else .whole n := by
  obtain ⟨noWord, noPoint⟩ := repr_plain n
  rw [Environment.typeFree, noWord]
  simp only [noPoint, Bool.false_eq_true, if_false, readInt?_repr]
  split <;> rfl

/-- The digits of a number of at most 32 bits are not too many. -/
theorem length_digitChars_le {n : Int} (nonneg : 0 ≤ n) (small : n ≤ 2 ^ 32 - 1) :
    (Decimal.digitChars n.natAbs).length ≤ maxDigits := by
  have ten : n.natAbs < 10 ^ 10 := by omega
  exact ((Nat.length_toDigits_le_iff (by decide) (by decide)).mpr ten).trans (by decide)

/-! ### Settings -/

/-- A text is what is written of a setting into the environment. -/
def Field.Writes : (f : Field) → f.Content → String → Prop
  | .gateway, g, text => g.map Address.text = some text
  | .timeout, x, text | .retryBaseDelay, x, text | .retryMaxDelay, x, text => text = Binary64.text x
  | .maxAttempts, n, text | .mappingLifetime, n, text => text = Int.repr n
  | .retryBackoff, b, text | .structuredLogging, b, text | .logCorrelationId, b, text =>
    ∃ word ∈ flagSpellings b, Respells word text
  | .logLevel, l, text => Respells (Log.Level.name l) text
  | .logFile, path, text => path = some text

variable {c : Settings} {text : String}

theorem readRealWithin_typeFree {l : Limits} (hlow : l.low < 2 ^ 53) (hhigh : l.high < 2 ^ 53)
    {x : Binary64} (h : l.AdmitsReal x) : readRealWithin l (Environment.typeFree x.text) = .ok x := by
  obtain ⟨q, value, -⟩ := id h
  exact (readRealWithin_eq_ok_iff hlow hhigh).mpr
    ⟨readReal_typeFree_text (Binary64.isFinite_iff.mpr ⟨q, value⟩), h⟩

theorem readWholeWithin_typeFree {l : Limits} {n : Int} (nonneg : 0 ≤ n) (small : n ≤ 2 ^ 32 - 1)
    (h : l.Admits n) : readWholeWithin l (Environment.typeFree n.repr) = .ok n := by
  rw [typeFree_repr, if_neg (not_lt.mpr (length_digitChars_le nonneg small))]
  exact readWholeWithin_whole h

theorem readFlag_typeFree {b : Bool} (h : ∃ word ∈ flagSpellings b, Respells word text) :
    readFlag (Environment.typeFree text) = .ok b := by
  obtain ⟨word, hw, spells⟩ := h
  rw [typeFree_of_respells hw spells, readFlag]

/-- **What is written of a setting within its bounds is read back.** -/
theorem read_typed (within : c.client.WithinBounds) (f : Field) (writes : f.Writes (c.content f) text) :
    f.read (Environment.typed text f.typing) = .ok (c.content f) := by
  obtain ⟨timeout, attempts, baseDelay, maxDelay, lifetime⟩ := Client.withinBounds_iff_admits.mp within
  cases f with
  | gateway =>
    obtain ⟨a, known, rfl⟩ := Option.map_eq_some_iff.mp writes
    have reads : readGateway (.text a.text) = .ok (some a) := readGateway_eq_ok_iff.mpr rfl
    exact reads.trans (congrArg Except.ok known.symm)
  | timeout =>
    obtain rfl := writes
    exact readRealWithin_typeFree (by decide) (by decide) timeout
  | maxAttempts =>
    obtain rfl := writes
    obtain ⟨least, most⟩ := within.maxAttempts
    exact readWholeWithin_typeFree (n := c.client.maxAttempts) (by omega) (by omega) attempts
  | retryBackoff | structuredLogging | logCorrelationId => exact readFlag_typeFree writes
  | retryBaseDelay =>
    obtain rfl := writes
    exact readRealWithin_typeFree (by decide) (by decide) baseDelay
  | retryMaxDelay =>
    obtain rfl := writes
    exact readRealWithin_typeFree (by decide) (by decide) maxDelay
  | mappingLifetime =>
    obtain rfl := writes
    obtain ⟨least, most⟩ := within.mappingLifetime
    exact readWholeWithin_typeFree least most lifetime
  | logLevel =>
    have named (l : Log.Level) : readLevel (.text l.name) = .ok l := by
      cases l <;> rfl
    exact (congrArg (readLevel <| .text ·) (upperCase_of_respells writes)).trans (named _)
  | logFile => exact congrArg Except.ok (Eq.symm writes)

/-- **Settings that are written into the environment are loaded back**, with every file that contributes a
table, whatever is in the table. -/
theorem environment_round_trip {e : Environment} (within : c.client.WithinBounds)
    (written : ∀ f : Field, ∃ text,
      e.lookup f.variable_.name = some text ∧ f.Writes (c.content f) text) :
    (∀ file, ofSources file e = .ok c) ∧
    (∀ (t : Tree) (found : Option Path) (file : Table), contribution t found = .ok file →
      (load t e found).1 = .ok c) ∧
    ∀ (named found : Option Path) (file : Table) (st : Store), st.environment = e →
      findFile st.tree named = .ok found → contribution st.tree found = .ok file →
      (Store.init named st).1 = .ok ⟨found, ⟨c, []⟩⟩ := by
  have loads (file : Table) : ofSources file e = .ok c := by
    refine ofSources_eq_ok_iff.mpr ⟨fun section_ => ?_, fun f => ?_⟩
    · -- a section with a variable that is set is not blocked by the file
      rintro ⟨-, unset⟩
      obtain ⟨f, hf⟩ : ∃ f : Field, f.section_ = section_ := by
        cases section_
        · exact ⟨.timeout, rfl⟩
        · exact ⟨.logLevel, rfl⟩
      obtain ⟨text, set, -⟩ := written f
      cases (unset f hf).symm.trans set
    · obtain ⟨text, set, writes⟩ := written f
      rw [Field.loaded, set]
      exact read_typed within f writes
  refine ⟨loads, fun t found file contributes => ?_, fun named found file st same finds contributes => ?_⟩
  · rw [load_eq, contributes]
    exact loads file
  · rw [Store.init_eq_ofSources finds contributes, same, loads]
    rfl

/-- A time with an exponent and without a point, a log file that looks like a number, and words in mixed case
are loaded back, beside a file in which the client is no table. -/
theorem environment_round_trip_exponent :
    let tiny : Binary64 := .finite false 5902958103587057 (-69) (by decide)
    let c : Settings := ⟨{ gateway := some ⟨192, 168, 1, 1⟩, timeout := tiny, retryBackoff := true },
      { logLevel := .info, logFile := some "1e3", logCorrelationId := false }⟩
    let e : Environment := [("NATPMPC_LOG_FILE", "1e3"), ("NATPMPC_LOG_LEVEL", "iNfO"),
      ("NATPMPC_STRUCTURED_LOGGING", "No"), ("NATPMPC_LOG_CORRELATION_ID", "oFF"), ("PATH", "/bin"),
      ("NATPMPC_TIMEOUT", "1e-05"), ("NATPMPC_GATEWAY", "192.168.1.1"), ("NATPMPC_MAX_ATTEMPTS", "9"),
      ("NATPMPC_RETRY_BACKOFF", "yEs"), ("NATPMPC_RETRY_BASE_DELAY", "0.25"),
      ("NATPMPC_RETRY_MAX_DELAY", "64.0"), ("NATPMPC_MAPPING_LIFETIME", "7200")]
    ofSources [("client", .whole 3), ("observability", .table [("log_file", .list [])])] e = .ok c := by
  intro tiny c e
  refine (environment_round_trip ?_ fun f => ?_).1 _
  · refine { Client.withinBounds_default with
      timeout := ⟨_, rfl, ?_⟩
      gateway := fun a _ => Address.ofValue_text a }
    norm_num
  · cases f with
    | retryBackoff => exact ⟨"yEs", rfl, "yes", by decide, by decide⟩
    | structuredLogging => exact ⟨"No", rfl, "no", by decide, by decide⟩
    | logCorrelationId => exact ⟨"oFF", rfl, "off", by decide, by decide⟩
    | logLevel => exact ⟨"iNfO", rfl, (by decide : Respells "INFO" "iNfO")⟩
    | timeout => exact ⟨"1e-05", rfl, (by decide +kernel : "1e-05" = tiny.text)⟩
    | retryBaseDelay => exact ⟨"0.25", rfl, (by decide +kernel : "0.25" = Binary64.quarter.text)⟩
    | retryMaxDelay => exact ⟨"64.0", rfl, (by decide +kernel : "64.0" = Binary64.sixtyFour.text)⟩
    | gateway =>
      exact ⟨"192.168.1.1", rfl, congrArg some (by decide : Address.text ⟨192, 168, 1, 1⟩ = "192.168.1.1")⟩
    | maxAttempts => exact ⟨"9", rfl, (by decide : "9" = Int.repr 9)⟩
    | mappingLifetime => exact ⟨"7200", rfl, (by decide : "7200" = Int.repr 7200)⟩
    | logFile => exact ⟨"1e3", rfl, rfl⟩

end PortMap.Settings
