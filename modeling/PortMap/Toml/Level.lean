import PortMap.Toml.Fault
import PortMap.Value.Basic

/-!
# Fields of values that may be no tables

While a document is read, a name may lead to a value that is no table. Here is said what comes of looking
for a field, of putting one, and of asking for the last item, for values of every kind; where a value
cannot do what is asked of it, the fault says why.
-/

namespace PortMap.Toml

/-- Whether a piece is found somewhere in a list. -/
def hasPiece {α : Type} [BEq α] (piece : List α) : List α → Bool
  | [] => piece.isEmpty
  | a :: rest => piece.isPrefixOf (a :: rest) || hasPiece piece rest

/-- Whether a value is the text given. -/
def isText (s : String) : Value → Bool
  | .text t => s == t
  | _ => false

/-- Whether a value has a member with a name: a field of a table, an item of a list, or a piece of a
text. -/
def hasMember (v : Value) (name : String) : Except Fault Bool :=
  match v with
  | .table fields | .inlined fields => .ok (fields.lookup name).isSome
  | .list items | .group items => .ok (items.any (isText name))
  | .text s => .ok (hasPiece name.toList s.toList)
  | .points codes => .ok (hasPiece (name.toList.map Char.toNat) codes)
  | v => .error (.noMembers v.kindInFault)

/-- The field with a name, if there is one. -/
def getField (v : Value) (name : String) : Except Fault (Option Value) :=
  match v with
  | .table fields | .inlined fields => .ok (fields.lookup name)
  | .list _ | .group _ => .error .fieldOfList
  | .text _ | .points _ => .error .fieldOfText
  | v => .error (.noItems v.kindInFault)

/-- The value with a field put. -/
def putField (v : Value) (name : String) (w : Value) : Except Fault Value :=
  match v with
  | .table fields => .ok (.table (Table.put fields name w))
  | .inlined fields => .ok (.inlined (Table.put fields name w))
  | .list _ | .group _ => .error .fieldOfList
  | _ => .error .putIntoText

/-- The last item; a table has none. -/
def lastItem? (v : Value) : Except Fault (Option Value) :=
  match v with
  | .table _ | .inlined _ => .ok none
  | .list items | .group items =>
    match items.getLast? with
    | some w => .ok (some w)
    | none => .error .listEnds
  | .text s =>
    match s.toList.getLast? with
    | some c => .ok (some (.text c.toString))
    | none => .error .textEnds
  | .points codes =>
    match codes.getLast? with
    | some n => .ok (some (.ofPoints [n]))
    | none => .error .textEnds
  | v => .error (.noItems v.kindInFault)

/-- The field with a name, which is put as an empty table if it is not there. -/
def openField (v : Value) (name : String) : Except Fault (Value × Value) :=
  match hasMember v name with
  | .error e => .error e
  | .ok member =>
    match if member then .ok v else putField v name (.table []) with
    | .error e => .error e
    | .ok v =>
      match getField v name with
      | .error e => .error e
      | .ok w => .ok (v, w.getD .null)

/-- Does something with the value to which names lead, which come into being on the way. Empty names do
not lead anywhere. -/
def within {α : Type} (f : Value → Except Fault (Value × α)) :
    List String → Value → Except Fault (Value × α)
  | [], v => f v
  | name :: path, v =>
    if name = "" then within f path v
    else
      match openField v name with
      | .error e => .error e
      | .ok (v, w) =>
        match within f path w with
        | .error e => .error e
        | .ok (w, a) => (putField v name w).map fun v => (v, a)

end PortMap.Toml
