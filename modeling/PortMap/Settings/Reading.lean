import PortMap.Numeral.Number
import PortMap.Settings.Basic
import PortMap.Settings.Issue

/-!
# Reading settings

Each setting is read from a value of a free kind by a reader of its own. Numbers may also be given as
numerals in a text, truth values as the numbers one and zero or as a word, and whole numbers as real
ones without a fraction. A setting that is absent has its default; names that are not known are not
looked at.

All problems are reported, in the order of the fields. `Client.read`, `Observability.read` and
`Settings.read` read the tables.
-/

namespace PortMap.Settings

open Text

/-! ### Numerals -/

/-- The text without its underscores, if each of them stands alone inside of it. -/
def dropUnderscores? (s : List Char) : Option (List Char) :=
  if s.head? = some '_' ∨ s.getLast? = some '_' then none
  else if (splitAt '_' s).drop 1 |>.dropLast |>.any List.isEmpty then none
  else some (s.filter (· != '_'))

/-- Reads a real numeral. Blanks may surround it, or underscores may stand inside of it, but not
both. -/
def readRealNumeral? (s : List Char) : Option Binary64 :=
  match readReal? (trim s) with
  | some x => some x
  | none => (dropUnderscores? s).bind readReal?

/-- What follows the zeros at the start of a whole numeral, with underscores among them, where
`before` is the character before the rest. A number of zeros alone is its last character, and a zero
before a point stays. -/
def afterZeros? (before : Char) : List Char → Option (List Char)
  | [] => some [before]
  | c :: rest =>
    if c = '0' ∨ c = '_' then afterZeros? c rest
    else if c = '-' ∨ isPlainDigit c then some (c :: rest)
    else if c = '.' then some (before :: c :: rest)
    else none

/-- A whole numeral without the zeros at its start. -/
def dropZeros? : List Char → Option (List Char)
  | [] => none
  | c :: rest =>
    if c = '0' then afterZeros? c rest
    else if c = '-' ∨ isPlainDigit c then some (c :: rest)
    else none

/-- A whole numeral without its plus sign. -/
def dropPlus : List Char → List Char
  | '+' :: '-' :: rest => '+' :: '-' :: rest
  | '+' :: rest => rest
  | s => s

/-- The numeral without a fraction of zeros. -/
def dropZeroFraction (s : List Char) : List Char :=
  let zeros := (s.reverse.takeWhile (· == '0')).length
  match s.reverse.drop zeros with
  | '.' :: rest => if zeros = 0 then s else rest.reverse
  | _ => s

/-- The bare form of a whole numeral: a minus sign, if it has one, and digits. -/
def bareWhole? (s : List Char) : Option (List Char) :=
  (dropZeros? (dropPlus (trim s))).bind fun s => dropUnderscores? (dropZeroFraction s)

/-- Whether characters are the digits of a whole number, without a zero too many at the start. -/
def isWholeNumeral (ds : List Char) : Bool :=
  !ds.isEmpty && ds.all isPlainDigit && (ds.head? != some '0' || ds.length == 1)

/-- The most characters of a whole numeral in its bare form. -/
def maxNumeralLength : Nat := 4300

/-- Reads a whole numeral. -/
def readWholeNumeral (s : List Char) : Except Problem Int :=
  match bareWhole? s with
  | none => .error .notWholeNumeral
  | some bare =>
    if maxNumeralLength < bare.length then .error .tooManyDigits
    else
      match bare with
      | '-' :: ds => if isWholeNumeral ds then .ok (-plainNumber ds) else .error .notWholeNumeral
      | ds => if isWholeNumeral ds then .ok (plainNumber ds) else .error .notWholeNumeral

/-! ### Values -/

/-- Reads a real number. -/
def readReal (v : Value) : Except Problem Binary64 :=
  match v with
  | .real x => .ok x
  | .flag b => .ok (if b then .one else .zero false)
  | .whole n =>
    match Binary64.ofInt? n with
    | some x => .ok x
    | none => .error .notNumber
  | .text s =>
    match readRealNumeral? s.toList with
    | some x => .ok x
    | none => .error .notNumeral
  | .points _ => .error .notUnicode
  | _ => .error .notNumber

/-- Reads the whole number that a real one is, if it has fewer than 64 bits. -/
def readWholeOfReal (x : Binary64) : Except Problem Int :=
  if !x.isFinite then .error .notFinite
  else
    match x.toInt? with
    | none => .error .fractional
    | some n => if n.natAbs < 2 ^ 63 then .ok n else .error .tooManyDigits

/-- Reads a whole number. -/
def readWhole (v : Value) : Except Problem Int :=
  match v with
  | .whole n => .ok n
  | .flag b => .ok (if b then 1 else 0)
  | .real x => readWholeOfReal x
  | .text s => readWholeNumeral s.toList
  | .points _ => .error .notUnicode
  | _ => .error .notWhole

/-- The words for a truth value, and the value. -/
def flagWords : List (String × Bool) :=
  [("0", false), ("off", false), ("f", false), ("false", false), ("n", false), ("no", false),
    ("1", true), ("on", true), ("t", true), ("true", true), ("y", true), ("yes", true)]

/-- Reads a truth value. -/
def readFlag (v : Value) : Except Problem Bool :=
  let ofWhole (n : Int) : Except Problem Bool :=
    if n = 0 then .ok false else if n = 1 then .ok true else .error .notFlagWord
  match v with
  | .flag b => .ok b
  | .whole n => if -2 ^ 63 ≤ n ∧ n < 2 ^ 63 then ofWhole n else .error .notFlag
  | .text s =>
    match flagWords.lookup (String.ofList (s.toList.map Char.toLower)) with
    | some b => .ok b
    | none => .error .notFlagWord
  | .real x =>
    match readWholeOfReal x with
    | .ok n => ofWhole n
    | .error _ => .error .notFlag
  | .points _ => .error .notUnicode
  | _ => .error .notFlag

/-- Reads a text, or no value. -/
def readText? (v : Value) : Except Problem (Option String) :=
  match v with
  | .null => .ok none
  | .text s => .ok (some s)
  | .points _ => .error .notUnicode
  | _ => .error .notText

/-- Reads an address, or no value. -/
def readGateway (v : Value) : Except Problem (Option Address) :=
  match readText? v with
  | .error p => .error p
  | .ok none => .ok none
  | .ok (some s) =>
    match Address.read s.toList with
    | .ok a => .ok (some a)
    | .error e => .error (.notAddress e)

/-- Reads the name of a log level. -/
def readLevel (v : Value) : Except Problem Log.Level :=
  match v with
  | .text s =>
    match Log.Level.ofName? s with
    | some l => .ok l
    | none => .error .notLevel
  | _ => .error .notLevel

/-! ### Limits -/

/-- The limits of a number. -/
structure Limits where
  /-- Whether the number may be the lower limit. -/
  inclusive : Bool
  /-- The lower limit. -/
  low : Nat
  /-- The upper limit, which the number may be. -/
  high : Nat

/-- The problem of a number that is not above the lower limit. -/
def Limits.tooLow (l : Limits) : Problem := if l.inclusive then .below l.low else .notAbove l.low

/-- Checks a real number. What is not a number is not under the upper limit. -/
def Limits.checkReal (l : Limits) (x : Binary64) : Except Problem Binary64 :=
  let low := Binary64.ofInt l.low
  if x.lt low || (!l.inclusive && x.le low) then .error l.tooLow
  else if x.le (Binary64.ofInt l.high) then .ok x
  else .error (.above l.high)

/-- Checks a whole number. -/
def Limits.checkWhole (l : Limits) (n : Int) : Except Problem Int :=
  if n < l.low ∨ (!l.inclusive ∧ n = l.low) then .error l.tooLow
  else if n ≤ l.high then .ok n
  else .error (.above l.high)

/-- The limits of the longest time of a receive. -/
def timeoutLimits : Limits := ⟨false, 0, 60⟩

/-- The limits of the number of attempts. -/
def attemptLimits : Limits := ⟨true, 1, 64⟩

/-- The limits of the first delay. -/
def baseDelayLimits : Limits := ⟨true, 0, 60⟩

/-- The limits of the longest delay. -/
def maxDelayLimits : Limits := ⟨true, 0, 3600⟩

/-- The limits of the lifetime of a mapping. -/
def lifetimeLimits : Limits := ⟨true, 0, 2 ^ 32 - 1⟩

/-- Reads a real number within limits. -/
def readRealWithin (l : Limits) (v : Value) : Except Problem Binary64 := (readReal v).bind l.checkReal

/-- Reads a whole number within limits. -/
def readWholeWithin (l : Limits) (v : Value) : Except Problem Int := (readWhole v).bind l.checkWhole

/-! ### Tables -/

/-- An outcome of reading with all the issues that were found. -/
abbrev Checked (α : Type) := Except (List Issue) α

/-- Both outcomes; the issues of both are kept, in order. -/
def Checked.apply {α β : Type} (f : Checked (α → β)) (a : Checked α) : Checked β :=
  match f, a with
  | .ok f, .ok a => .ok (f a)
  | .ok _, .error issues => .error issues
  | .error issues, .ok _ => .error issues
  | .error before, .error after => .error (before ++ after)

/-- Reads the field of a name, or takes the default if there is none. -/
def field {α : Type} (t : Table) (name : String) (default : α) (read : Value → Except Problem α) :
    Checked α :=
  match t.get? name with
  | none => .ok default
  | some v => (read v).mapError fun p => [⟨[name], p, v⟩]

/-- Reads the settings of the client from a table. -/
def Client.ofTable (t : Table) : Checked Client :=
  let d : Client := {}
  let start : Checked _ := .ok Client.mk
  let c := start.apply (field t "gateway" d.gateway readGateway)
  let c := Checked.apply c (field t "timeout" d.timeout (readRealWithin timeoutLimits))
  let c := Checked.apply c (field t "max_attempts" d.maxAttempts (readWholeWithin attemptLimits))
  let c := Checked.apply c (field t "retry_backoff" d.retryBackoff readFlag)
  let c := Checked.apply c
    (field t "retry_base_delay" d.retryBaseDelay (readRealWithin baseDelayLimits))
  let c := Checked.apply c
    (field t "retry_max_delay" d.retryMaxDelay (readRealWithin maxDelayLimits))
  Checked.apply c (field t "mapping_lifetime" d.mappingLifetime (readWholeWithin lifetimeLimits))

/-- Reads the settings of the log from a table. -/
def Observability.ofTable (t : Table) : Checked Observability :=
  let d : Observability := {}
  let start : Checked _ := .ok Observability.mk
  let o := start.apply (field t "log_level" d.logLevel readLevel)
  let o := Checked.apply o (field t "log_file" d.logFile readText?)
  let o := Checked.apply o (field t "structured_logging" d.structuredLogging readFlag)
  Checked.apply o (field t "log_correlation_id" d.logCorrelationId readFlag)

/-- Reads a value that has to be a table, the settings of the name given. -/
def readTable {α : Type} (model : String) (read : Table → Checked α) (v : Value) : Checked α :=
  match v.table? with
  | some t => read t
  | none => .error [⟨[], .notTable model, v⟩]

/-- The name of the settings of the client. -/
def Client.modelName : String := "ClientConfig"

/-- The name of the settings of the log. -/
def Observability.modelName : String := "ObservabilityConfig"

/-- The name of all settings. -/
def modelName : String := "Config"

/-- Reads the settings of the client. -/
def Client.read (v : Value) : Checked Client := readTable Client.modelName Client.ofTable v

/-- Reads the settings of the log. -/
def Observability.read (v : Value) : Checked Observability :=
  readTable Observability.modelName Observability.ofTable v

/-- Reads a section of the settings, or takes its default. -/
def section? {α : Type} (t : Table) (name : String) (default : α) (read : Value → Checked α) :
    Checked α :=
  match t.get? name with
  | none => .ok default
  | some v => (read v).mapError (List.map (Issue.within name))

/-- Reads all settings from a table. -/
def ofTable (t : Table) : Checked Settings :=
  let start : Checked _ := .ok Settings.mk
  let s := start.apply (section? t "client" {} Client.read)
  Checked.apply s (section? t "observability" {} Observability.read)

/-- Reads all settings. -/
def read (v : Value) : Checked Settings := readTable modelName ofTable v

end PortMap.Settings
