import PortMap.Settings.Field

/-!
# Settings with unchecked values

Settings that are in use may be set one at a time, to values of any kind, and nothing checks these.
`Held` holds checked settings together with the values that were set since. Each field shows its values in
its own way (`Field.shown`): a number in the place of a real one is shown as a real one, and a truth value
in the place of a whole number as a whole number.
-/

namespace PortMap.Settings

/-- A value as a field shows it. -/
def Field.shown (f : Field) (v : Value) : Value :=
  match f with
  | .timeout | .retryBaseDelay | .retryMaxDelay =>
    match (v.wholeNumber?).bind Binary64.ofInt? with
    | some x => .real x
    | none => v
  | .maxAttempts | .mappingLifetime =>
    match v.wholeNumber? with
    | some n => .whole n
    | none => v
  | _ => v

/-- Whether a field holds real numbers. -/
def Field.isReal : Field → Bool
  | .timeout | .retryBaseDelay | .retryMaxDelay => true
  | _ => false

mutual

/-- A value without the numbers in it that are not finite. -/
def finitePart : Value → Value
  | .real x => if x.isFinite then .real x else .null
  | .list items => .list (finiteItems items)
  | .group items => .group (finiteItems items)
  | .table fields => .table (finiteFields fields)
  | .inlined fields => .inlined (finiteFields fields)
  | v => v

/-- The items without the numbers in them that are not finite. -/
def finiteItems : List Value → List Value
  | [] => []
  | v :: rest => finitePart v :: finiteItems rest

/-- The fields without the numbers in them that are not finite. -/
def finiteFields : List (String × Value) → Table
  | [] => []
  | (name, v) :: rest => (name, finitePart v) :: finiteFields rest

end

/-- A value as a field writes it to a document: only in the place of a real number there may be one that
is not finite. -/
def Field.written (f : Field) (v : Value) : Value :=
  match f.shown v with
  | .real x => if f.isReal then .real x else finitePart (.real x)
  | v => finitePart v

/-- Settings with values that were set without a check. -/
structure Held where
  /-- The settings that were checked. -/
  checked : Settings
  /-- The values that were set, each in the place of the checked one. -/
  unchecked : List (Field × Value) := []

namespace Held

/-- The value of a setting. -/
def value (h : Held) (f : Field) : Value := (h.unchecked.lookup f).getD (h.checked.value f)

/-- The settings with one of them set. -/
def set (h : Held) (f : Field) (v : Value) : Held := { h with unchecked := (f, v) :: h.unchecked }

/-- The settings as a table of sections. -/
def toTable (h : Held) : Table :=
  Section.all.map fun s => (s.name, .table (s.fields.map fun f => (f.name, f.shown (h.value f))))

/-- The settings as a document has them: those without a value are left out. -/
def toDocument (h : Held) : Table :=
  Section.all.map fun s =>
    (s.name, .table (s.fields.filterMap fun f =>
      match h.value f with
      | .null => none
      | v => some (f.name, f.written v)))

/-- The delays between failed receives, if there are any. -/
def schedule? (h : Held) : Option Schedule :=
  if (h.value .retryBackoff).isTrue then
    some { first := h.value .retryBaseDelay, ceiling := h.value .retryMaxDelay }
  else none

end Held

end PortMap.Settings
