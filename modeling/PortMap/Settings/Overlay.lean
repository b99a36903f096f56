import PortMap.Value.Basic

/-!
# Laying one table over another

Settings come from several sources, and a later source has the last word. Laid over a table, another
one sets its fields: a field that is a table in both is laid over in turn, any other field is replaced,
and a field that is new stands at the end.

Values of a free kind may be no tables; `Value.laidOver` says what comes of them.
-/

namespace PortMap

mutual

/-- What becomes of a value over which another one is laid. -/
def Value.overlay (old : Value) : Value → Value
  | .table fields =>
    match old with
    | .table base => .table (Table.overlay base fields)
    | .inlined base => .inlined (Table.overlay base fields)
    | _ => .table fields
  | .inlined fields =>
    match old with
    | .table base => .table (Table.overlay base fields)
    | .inlined base => .inlined (Table.overlay base fields)
    | _ => .inlined fields
  | v => v

/-- The first table with the second one laid over it. -/
def Table.overlay (base : Table) : List (String × Value) → Table
  | [] => base
  | (name, v) :: rest =>
    match base.get? name with
    | some old => Table.overlay (base.put name (Value.overlay old v)) rest
    | none => Table.overlay (base.put name v) rest

end

/-- Why one value cannot be laid over another. -/
inductive Overlay.Fault where
  /-- The value below is of a kind that cannot be copied. -/
  | noCopy (kind : String)
  /-- The value above has no fields. -/
  | noFields (kind : String)
  /-- A field is put into a list. -/
  | fieldOfList
  deriving DecidableEq, Repr

/-- What is told of values that cannot be laid over each other. -/
def Overlay.Fault.message : Overlay.Fault → String
  | .noCopy kind => "'" ++ kind ++ "' object has no attribute 'copy'"
  | .noFields kind => "'" ++ kind ++ "' object has no attribute 'items'"
  | .fieldOfList => "list indices must be integers or slices, not str"

/-- A value with another one laid over it. A list stays as it is if nothing is laid over it. -/
def Value.laidOver (base override : Value) : Except Overlay.Fault Value :=
  match base with
  | .table _ | .inlined _ | .list _ =>
    match override.table? with
    | none => .error (.noFields override.kindInFault)
    | some fields =>
      match base with
      | .list _ => if fields.isEmpty then .ok base else .error .fieldOfList
      | _ => .ok (base.overlay override)
  | _ => .error (.noCopy base.kindInFault)

end PortMap
