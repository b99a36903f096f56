import PortMap.Ipv4.Address

/-!
# A printed routing table

The table that Windows prints: destination, netmask, gateway, interface and metric of a route in a
line. The default route is the first one with destination and netmask `0.0.0.0` whose gateway is an
address.
-/

namespace PortMap.Route.PrintedTable

open Text

/-- The gateway of a line, if it is a default route through one. -/
def gatewayOfLine (line : List Char) : Option Address :=
  match words line with
  | destination :: netmask :: gateway :: _ =>
    if destination = "0.0.0.0".toList ∧ netmask = "0.0.0.0".toList then Address.read? gateway else none
  | _ => none

/-- The gateway of the default route. -/
def gateway? (text : List Char) : Option Address := (lines text).findSome? gatewayOfLine

end PortMap.Route.PrintedTable
