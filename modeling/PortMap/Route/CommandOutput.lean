import PortMap.Ipv4.Address

/-!
# The output of a route command

Commands that show the default route print its gateway after the word `via` or `gateway:`. The gateway
is the first address that follows one of these words on a line; what follows a slash is not part of the
address, and a word that is no address is passed over.
-/

namespace PortMap.Route.CommandOutput

open Text

/-- Whether a word announces a gateway. -/
def announces (word : List Char) : Bool := word = "via".toList || word = "gateway:".toList

/-- The address that a word begins with, up to a slash. -/
def addressOfWord? (word : List Char) : Option Address := Address.read? (word.takeWhile (· != '/'))

/-- The first announced address among the words of a line. -/
def gatewayOfWords : List (List Char) → Option Address
  | word :: next :: rest =>
    if announces word then
      match addressOfWord? next with
      | some a => some a
      | none => gatewayOfWords (next :: rest)
    else gatewayOfWords (next :: rest)
  | _ => none

/-- The gateway of the default route. -/
def gateway? (text : List Char) : Option Address :=
  (lines text).findSome? fun line => gatewayOfWords (words line)

end PortMap.Route.CommandOutput
