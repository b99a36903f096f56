import PortMap.Proofs.Settings.EnvironmentText
import PortMap.Proofs.Settings.Numeral

/-!
# Numbers in the environment

Five settings are numbers (`Field.numeric`). This module says what becomes of such a setting when its variable
holds a text: a numeral, a word, or anything else.

## The argument

The text is typed first, without regard to the setting, and the reader of the setting then reads what it was
typed as. A word for a truth value becomes the value, and the readers of numbers take a truth value for one or
zero (`read_flag_true`, `read_flag_false`). A text that is neither a word nor a numeral stays text
(`typed_of_refused`), and the reader of the setting tries it again by its own rules, which ask for an
underscore or for a minus sign behind a zero before they take what the others refused
(`exists_read_text_eq_error`). A whole number becomes itself, or stays text if it has too many digits, and is
then refused (`read_typeFree_repr`).

## What is proved

* `numeric_variables` — **what is loaded for a number from a text that is no numeral, from a word in any case,
  and from a whole number**: the first is refused but for marks that only the settings take, a word counts as
  one or zero, a whole number counts as itself within its limits and is refused beyond them.
* `words_become_numbers` — it is not so that every text that is no numeral is refused.
-/

namespace PortMap.Settings

open Text

/-! ### Settings that are numbers -/

namespace Field

/-- The settings that are numbers. -/
def numeric : List Field := [.timeout, .maxAttempts, .retryBaseDelay, .retryMaxDelay, .mappingLifetime]

/-- The settings that are whole numbers. -/
def whole : List Field := [.maxAttempts, .mappingLifetime]

/-- The value that shows what a setting holds. -/
def shows : (f : Field) → f.Content → Value
  | .gateway, g => (Option.map (fun a => Value.text (Address.text a)) g).getD .null
  | .timeout, x | .retryBaseDelay, x | .retryMaxDelay, x => .real x
  | .maxAttempts, n | .mappingLifetime, n => .whole n
  | .retryBackoff, b | .structuredLogging, b | .logCorrelationId, b => .flag b
  | .logLevel, l => .text (Log.Level.name l)
  | .logFile, s => (Option.map Value.text s).getD .null

theorem typing_of_numeric {f : Field} (h : f ∈ numeric) : f.typing = .free := by
  cases f with
  | timeout | maxAttempts | retryBaseDelay | retryMaxDelay | mappingLifetime => rfl
  | _ => exact absurd h (by decide)

/-- The number that a truth value counts as. -/
def ofFlag (f : Field) (b : Bool) : Value :=
  if f.isReal then .real (if b then .one else .zero false) else .whole (if b then 1 else 0)

/-- The settings that may not be zero. -/
def positive : List Field := [.timeout, .maxAttempts]

/-- A whole number is within the limits of a setting. -/
def Allows : Field → Int → Prop
  | .maxAttempts, n => 1 ≤ n ∧ n ≤ 64
  | .mappingLifetime, n => 0 ≤ n ∧ n ≤ 2 ^ 32 - 1
  | _, _ => False

end Field

theorem value_eq_shows (s : Settings) (f : Field) : s.value f = f.shows (s.content f) := by
  cases f <;> rfl

/-! ### Loading -/

/-- Loading ends with a complaint about the configuration. -/
def Complains (file : Table) (e : Environment) : Prop :=
  ∃ fault, ofSources file e = .error fault ∧ fault.IsComplaint

/-- No section is blocked, and all settings but one are valid. -/
def Field.OthersLoad (f : Field) (file : Table) (e : Environment) : Prop :=
  (∀ section_ : Section, ¬ section_.Blocked file e) ∧ ∀ g, g ≠ f → ∃ x, g.loaded file e = .ok x

variable {file : Table} {e : Environment} {f : Field} {text : String}

theorem complains_of_loaded (h : ∃ p, f.loaded file e = .error p) : Complains file e :=
  ofSources_complains_iff.mpr (.inr ⟨f, h⟩)

/-- What is loaded for a setting is what the settings show, if the others are loaded too. -/
theorem exists_ofSources_eq_ok (others : f.OthersLoad file e) {x : f.Content}
    (h : f.loaded file e = .ok x) : ∃ s, ofSources file e = .ok s ∧ s.value f = f.shows x := by
  have readable (g : Field) : ∃ y, g.loaded file e = .ok y := by
    by_cases same : g = f
    · exact same ▸ ⟨x, h⟩
    · exact others.2 g same
  choose y hy using readable
  refine ⟨ofContents y, ofSources_eq_ok_iff.mpr ⟨others.1, fun g => ?_⟩, ?_⟩
  · rw [content_ofContents, hy]
  · rw [value_eq_shows, content_ofContents, Except.ok.inj ((hy f).symm.trans h)]

theorem loaded_eq_read (numeric : f ∈ Field.numeric) (set : e.lookup f.variable_.name = some text) :
    f.loaded file e = f.read (Environment.typeFree text) := by
  rw [Field.loaded, set, Field.typing_of_numeric numeric]
  rfl

/-! ### Words -/

/-- A text is a word for a truth value, in any case of letters. -/
def Spells (b : Bool) (text : String) : Prop := ∃ word ∈ flagSpellings b, Respells word text

/-- What is typed as a truth value by its letters is a word for it. -/
theorem spells_of_lookup {b : Bool}
    (h : Environment.flagWords.lookup (String.ofList (text.toList.map Char.toLower)) = some b) :
    Spells b text := by
  have known : (Environment.flagWords.all fun w => w.1 ∈ flagSpellings w.2 ∧ w.1.toList.map Char.toLower = w.1.toList)
      = true := by decide
  obtain ⟨before, after, parts, -⟩ := List.lookup_eq_some_iff.mp h
  obtain ⟨word, small⟩ := List.all_iff_forall_prop.mp known _ (parts ▸ List.mem_append_right before List.mem_cons_self)
  rw [String.toList_ofList, List.map_map, List.map_inj_left] at small
  refine ⟨_, word, ?_⟩
  rw [Respells, String.toList_ofList, List.forall₂_map_left_iff, List.forall₂_same]
  intro c hc
  have same : c.toLower.toLower = c.toLower := small c hc
  rw [same]
  exact eq_or_eq_toUpper rfl

theorem exists_error_of_ne_ok {ε α : Type} {r : Except ε α} (h : ∀ x, r ≠ .ok x) : ∃ p, r = .error p := by
  cases r with
  | ok x => exact absurd rfl (h x)
  | error p => exact ⟨p, rfl⟩

theorem rational?_flag (b : Bool) :
    (if b then Binary64.one else Binary64.zero false).rational? = some (if b then 1 else 0) := by
  cases b <;> norm_num [Binary64.one, Binary64.zero, Binary64.rational?]

/-- A truth value that counts as a number within the limits is read as this number. -/
theorem exists_readRealWithin_flag {l : Limits} (hlow : l.low < 2 ^ 53) (hhigh : l.high < 2 ^ 53) {b : Bool}
    (admits : l.Admits (if b then 1 else 0)) :
    readRealWithin l (.flag b) = .ok (if b then .one else .zero false) :=
  (readRealWithin_eq_ok_iff hlow hhigh).mpr ⟨rfl, _, rational?_flag b, admits⟩

/-- **A word for a truth value counts as one or zero**, where zero is within the limits. -/
theorem exists_read_flag (numeric : f ∈ Field.numeric) {b : Bool} (h : ¬ (f ∈ Field.positive ∧ b = false)) :
    ∃ x, f.read (.flag b) = .ok x ∧ f.shows x = f.ofFlag b := by
  have real {l : Limits} (hlow : l.low < 2 ^ 53) (hhigh : l.high < 2 ^ 53)
      (admits : l.Admits (if b then 1 else 0)) :
      ∃ x, readRealWithin l (.flag b) = .ok x ∧ Value.real x = .real (if b then .one else .zero false) :=
    ⟨_, exists_readRealWithin_flag hlow hhigh admits, rfl⟩
  have whole {l : Limits} (admits : l.Admits (if b then (1 : Int) else 0 : Int)) :
      ∃ n, readWholeWithin l (.flag b) = .ok n ∧ Value.whole n = .whole (if b then 1 else 0) :=
    ⟨_, readWholeWithin_eq_ok_iff.mpr ⟨rfl, admits⟩, rfl⟩
  cases f with
  | timeout =>
    obtain rfl : b = true := by simpa [Field.positive] using h
    exact real (by decide) (by decide) (by norm_num [Limits.Admits, timeoutLimits])
  | maxAttempts =>
    obtain rfl : b = true := by simpa [Field.positive] using h
    exact whole (by norm_num [Limits.Admits, attemptLimits])
  | retryBaseDelay => exact real (by decide) (by decide) (by cases b <;> norm_num [Limits.Admits, baseDelayLimits])
  | retryMaxDelay => exact real (by decide) (by decide) (by cases b <;> norm_num [Limits.Admits, maxDelayLimits])
  | mappingLifetime => exact whole (by cases b <;> norm_num [Limits.Admits, lifetimeLimits])
  | _ => exact absurd numeric (by decide)

/-- Zero is refused where it is not within the limits. -/
theorem exists_read_flag_eq_error (positive : f ∈ Field.positive) : ∃ p, f.read (.flag false) = .error p := by
  cases f with
  | timeout =>
    refine exists_error_of_ne_ok fun x reads => ?_
    obtain ⟨same, q, value, above, -⟩ := (readRealWithin_eq_ok_iff (by decide) (by decide)).mp reads
    cases same
    cases (rational?_flag false).symm.trans value
    exact lt_irrefl _ above
  | maxAttempts => exact ⟨.below 1, rfl⟩
  | _ => exact absurd positive (by decide)

/-! ### Texts that are no numeral -/

/-- What is neither a word nor a numeral stays text. -/
theorem typeFree_of_refused (noWord : ∀ b, ¬ Spells b text) (noInt : readInt? text.toList = none)
    (noReal : readFloat? text.toList = none) : Environment.typeFree text = .text text := by
  have noFlag : Environment.flagWords.lookup (String.ofList (text.toList.map Char.toLower)) = none := by
    cases h : Environment.flagWords.lookup (String.ofList (text.toList.map Char.toLower)) with
    | none => rfl
    | some b => exact absurd (spells_of_lookup h) (noWord b)
  rw [Environment.typeFree, noFlag, noInt, noReal]
  simp

/-- Without an underscore, and without a minus sign behind a zero, the readers of the settings refuse what is no
real numeral. -/
theorem exists_read_text_eq_error (numeric : f ∈ Field.numeric) (noReal : readFloat? text.toList = none)
    (noMark : '_' ∉ text.toList) (noMinus : f = .mappingLifetime → ¬ ['0', '-'] <:+: text.toList) :
    ∃ p, f.read (.text text) = .error p := by
  have real {l : Limits} (hlow : l.low < 2 ^ 53) (hhigh : l.high < 2 ^ 53) :
      ∃ p, readRealWithin l (.text text) = .error p := by
    refine exists_error_of_ne_ok fun x reads => ?_
    have reads := ((readRealWithin_eq_ok_iff hlow hhigh).mp reads).1
    rw [readReal] at reads
    split at reads
    · rename_i y numeral
      cases noReal.symm.trans (readFloat?_of_readRealNumeral? noMark numeral)
    · cases reads
  have whole {l : Limits} (h : ∀ n, l.Admits n → n ≤ 0 → ¬ ['0', '-'] <:+: text.toList) :
      ∃ p, readWholeWithin l (.text text) = .error p := by
    refine exists_error_of_ne_ok fun n reads => ?_
    obtain ⟨numeral, admits⟩ := readWholeWithin_eq_ok_iff.mp reads
    rcases exists_readFloat?_or noMark numeral with ⟨x, float⟩ | ⟨minus, low⟩
    · cases noReal.symm.trans float
    · exact h n admits (by exact_mod_cast low) minus
  cases f with
  | timeout => exact real (by decide) (by decide)
  | maxAttempts =>
    refine whole fun n admits low => ?_
    obtain ⟨least, -⟩ : (1 : ℚ) ≤ n ∧ n ≤ 64 := by simpa [Limits.Admits, attemptLimits] using admits
    exact absurd (least.trans low) (by norm_num)
  | retryBaseDelay => exact real (by decide) (by decide)
  | retryMaxDelay => exact real (by decide) (by decide)
  | mappingLifetime => exact whole fun n _ _ => noMinus rfl
  | _ => exact absurd numeric (by decide)

/-! ### Whole numbers -/

/-- The written form of a whole number consists of digits and a minus sign. -/
theorem mem_repr {n : Int} {c : Char} (hc : c ∈ n.repr.toList) : c = '-' ∨ isPlainDigit c = true := by
  rw [toList_repr, List.mem_append] at hc
  rcases hc with sign | digit
  · split at sign
    · exact .inl (List.mem_singleton.mp sign)
    · cases sign
  · exact .inr (isPlainDigit_of_mem_digitChars digit)

/-- A whole number of too many digits is refused as a text, too: its bare form has all of them. -/
theorem readWholeNumeral_repr_ne_ok {n m : Int} (long : maxDigits < (Decimal.digitChars n.natAbs).length) :
    readWholeNumeral n.repr.toList ≠ .ok m := by
  intro reads
  have foreign {c : Char} (notMinus : c ≠ '-') (notDigit : isPlainDigit c = false) : c ∉ n.repr.toList := by
    intro hc
    rcases mem_repr hc with minus | digit
    · exact notMinus minus
    · exact Bool.false_ne_true (notDigit.symm.trans digit)
  have trimmed : trim n.repr.toList = n.repr.toList := trim_of_not_blank fun c hc => by
    rcases mem_repr hc with rfl | digit
    · rfl
    · exact (realChars_plain c (mem_realChars_of_isPlainDigit digit)).1
  have unsigned : dropPlus n.repr.toList = n.repr.toList := by
    refine (dropPlus_cases _).resolve_right fun plus => foreign (by decide) rfl (c := '+') ?_
    rw [plus.1]
    exact List.mem_cons_self
  obtain ⟨negative, ds, isBare, some_, digits, short, -⟩ := exists_bareWhole?_eq reads
  obtain ⟨k, t, parts, fraction⟩ := bareWhole?_eq (foreign (by decide) rfl) isBare
  rw [trimmed, unsigned] at parts
  obtain rfl : t = [] := by
    refine fraction.resolve_right fun ⟨j, point⟩ => foreign (by decide) rfl (c := '.') ?_
    rw [parts, point]
    simp
  -- without the signs, the bare form has the digits of the number, but for zeros in front of them
  have all_ {cs : List Char} (h : ∀ c ∈ cs, isPlainDigit c = true) : cs.filter isPlainDigit = cs :=
    List.filter_eq_self.mpr h
  have none_ (b : Bool) : List.filter isPlainDigit (if b then ['-'] else []) = [] := by
    cases b <;> rfl
  have same := congrArg (List.filter isPlainDigit) ((toList_repr n).symm.trans parts)
  simp only [List.filter_append, none_, List.nil_append, List.append_nil, all_ digits,
    all_ fun c hc => isPlainDigit_of_mem_digitChars hc, all_ fun c hc => isPlainDigit_of_mem_zeros hc] at same
  cases k with
  | zero =>
    rw [same] at long
    exact absurd short (not_le.mpr long)
  | succ k =>
    have pos : n.natAbs ≠ 0 := fun zero => by
      rw [zero] at long
      exact absurd long (by decide)
    refine head?_digitChars pos ?_
    rw [same]
    rfl

theorem allows_iff (whole : f ∈ Field.whole) (n : Int) :
    f.Allows n ↔ (if f = .maxAttempts then attemptLimits else lifetimeLimits).Admits n := by
  cases f with
  | maxAttempts =>
    simp only [Field.Allows, Limits.Admits, attemptLimits, if_true]
    exact_mod_cast Iff.rfl
  | mappingLifetime =>
    simp only [Field.Allows, Limits.Admits, lifetimeLimits, if_true, reduceCtorEq, if_false]
    exact_mod_cast Iff.rfl
  | _ => exact absurd whole (by decide)

theorem small_of_allows {n : Int} (h : f.Allows n) : 0 ≤ n ∧ n ≤ 2 ^ 32 - 1 := by
  cases f with
  | maxAttempts =>
    obtain ⟨least, most⟩ := h
    omega
  | mappingLifetime => exact h
  | _ => exact h.elim

/-- **A whole number is loaded as itself within the limits, and is refused beyond them.** -/
theorem read_typeFree_repr (whole : f ∈ Field.whole) (n : Int) :
    (f.Allows n → ∃ x, f.read (Environment.typeFree n.repr) = .ok x ∧ f.shows x = .whole n) ∧
      (¬ f.Allows n → ∃ p, f.read (Environment.typeFree n.repr) = .error p) := by
  have reads {l : Limits} (h : f.Allows n ↔ l.Admits n) :
      (f.Allows n → ∃ m, readWholeWithin l (Environment.typeFree n.repr) = .ok m ∧ Value.whole m = .whole n) ∧
        (¬ f.Allows n → ∃ p, readWholeWithin l (Environment.typeFree n.repr) = .error p) := by
    rw [typeFree_repr]
    split
    · rename_i long
      refine ⟨fun allows => ?_, fun _ => exists_error_of_ne_ok fun m reads => ?_⟩
      · obtain ⟨nonneg, small⟩ := small_of_allows allows
        exact absurd (length_digitChars_le nonneg small) (not_le.mpr long)
      · exact readWholeNumeral_repr_ne_ok long (readWholeWithin_eq_ok_iff.mp reads).1
    · refine ⟨fun allows => ⟨n, readWholeWithin_whole (h.mp allows), rfl⟩, fun refused =>
        exists_error_of_ne_ok fun m reads => ?_⟩
      obtain ⟨same, admits⟩ := readWholeWithin_eq_ok_iff.mp reads
      cases same
      exact refused (h.mpr admits)
  cases f with
  | maxAttempts => exact reads (allows_iff whole n)
  | mappingLifetime => exact reads (allows_iff whole n)
  | _ => exact absurd whole (by decide)

/-! ### Variables -/

/-- **Numbers in the environment.** The variable of a number holds a text; the file and the other variables hold
anything.

* A text that is neither a word nor a numeral stays text for the reader of the setting, and is refused if it has
  no underscore and, for the lifetime of a mapping, no minus sign behind a zero.
* A word for a truth value, in any case of letters, is one or zero, and is refused where this is zero and not
  within the limits.
* The text of a whole number is this number within the limits, and is refused beyond them. -/
theorem numeric_variables (numeric : f ∈ Field.numeric) (set : e.lookup f.variable_.name = some text) :
    ((∀ b, ¬ Spells b text) → readInt? text.toList = none → readFloat? text.toList = none →
      f.loaded file e = f.read (.text text) ∧
      ('_' ∉ text.toList → (f = .mappingLifetime → ¬ ['0', '-'] <:+: text.toList) → Complains file e)) ∧
    (∀ b, Spells b text →
      (f ∈ Field.positive ∧ b = false → Complains file e) ∧
      (¬ (f ∈ Field.positive ∧ b = false) → f.OthersLoad file e →
        ∃ s, ofSources file e = .ok s ∧ s.value f = f.ofFlag b)) ∧
    (f ∈ Field.whole → ∀ n : Int, text = n.repr →
      (f.Allows n → f.OthersLoad file e → ∃ s, ofSources file e = .ok s ∧ s.value f = .whole n) ∧
      (¬ f.Allows n → Complains file e)) := by
  have loads : f.loaded file e = f.read (Environment.typeFree text) := loaded_eq_read numeric set
  refine ⟨fun noWord noInt noReal => ?_, ?_, ?_⟩
  · rw [typeFree_of_refused noWord noInt noReal] at loads
    refine ⟨loads, fun noMark noMinus => complains_of_loaded (f := f) ?_⟩
    rw [loads]
    exact exists_read_text_eq_error numeric noReal noMark noMinus
  · rintro b ⟨word, isWord, spells⟩
    rw [typeFree_of_respells isWord spells] at loads
    refine ⟨?_, fun taken others => ?_⟩
    · rintro ⟨positive, rfl⟩
      exact complains_of_loaded (loads ▸ exists_read_flag_eq_error positive)
    · obtain ⟨x, reads, shows⟩ := exists_read_flag numeric taken
      exact shows ▸ exists_ofSources_eq_ok others (loads.trans reads)
  · rintro whole n rfl
    obtain ⟨taken, refused⟩ := read_typeFree_repr whole n
    refine ⟨fun allows others => ?_, fun beyond => complains_of_loaded (loads ▸ refused beyond)⟩
    obtain ⟨x, reads, shows⟩ := taken allows
    exact shows ▸ exists_ofSources_eq_ok others (loads.trans reads)

/-- With nothing but one variable, the other settings are loaded. -/
theorem othersLoad_single (f : Field) (text : String) : f.OthersLoad [] [(f.variable_.name, text)] := by
  refine ⟨fun section_ => ?_, fun g other => ⟨content {} g, ?_⟩⟩
  · rintro ⟨⟨v, there, -⟩, -⟩
    cases there
  · have names : g.variable_.name ≠ f.variable_.name := by
      cases f <;> cases g <;> first | exact absurd rfl other | decide
    have unset : List.lookup g.variable_.name [(f.variable_.name, text)] = none :=
      List.lookup_eq_none_iff.mpr (by simpa using names)
    rw [Field.loaded, unset]
    rfl

/-- A lifetime of `ten` is refused, one that is switched off is zero, 7200 is what it says, and -1 is refused. -/
theorem numeric_variables_lifetime :
    Complains [] [("NATPMPC_MAPPING_LIFETIME", "ten")] ∧
    (∃ s, ofSources [] [("NATPMPC_MAPPING_LIFETIME", "oFf")] = .ok s ∧ s.value .mappingLifetime = .whole 0) ∧
    (∃ s, ofSources [] [("NATPMPC_MAPPING_LIFETIME", "7200")] = .ok s ∧
      s.value .mappingLifetime = .whole 7200) ∧
    Complains [] [("NATPMPC_MAPPING_LIFETIME", "-1")] := by
  have at_ (text : String) := @numeric_variables [] [("NATPMPC_MAPPING_LIFETIME", text)] .mappingLifetime text
    (by decide) rfl
  have others := othersLoad_single .mappingLifetime
  refine ⟨?_, ?_, ?_, ?_⟩
  · obtain ⟨refused, -⟩ := at_ "ten"
    have noWord : ∀ b, ¬ Spells b "ten" := by
      rintro (_ | _) <;> simp only [Spells] <;> decide
    exact (refused noWord rfl rfl).2 (by decide) fun _ => by decide
  · obtain ⟨-, words, -⟩ := at_ "oFf"
    exact (words false ⟨"off", by decide, by decide⟩).2 (by decide) (others "oFf")
  · obtain ⟨-, -, wholes⟩ := at_ "7200"
    exact (wholes (by decide) 7200 (by decide)).1 ⟨by decide, by decide⟩ (others "7200")
  · obtain ⟨-, -, wholes⟩ := at_ "-1"
    exact (wholes (by decide) (-1) (by decide)).2 fun allowed => absurd allowed.1 (by decide)

/-- A word makes a number of attempts, though it is no numeral. -/
theorem words_become_numbers :
    ¬ ∀ (file : Table) (e : Environment) (f : Field) (text : String), f ∈ Field.numeric →
      e.lookup f.variable_.name = some text → readInt? text.toList = none → readFloat? text.toList = none →
      Complains file e := by
  intro h
  obtain ⟨fault, fails, -⟩ := h [] [("NATPMPC_MAX_ATTEMPTS", "yes")] .maxAttempts "yes" (by decide) rfl rfl rfl
  obtain ⟨s, loads, -⟩ := exists_ofSources_eq_ok (othersLoad_single .maxAttempts "yes") (x := (1 : Int)) rfl
  cases loads.symm.trans fails

end PortMap.Settings
