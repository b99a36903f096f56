/-!
# Why a document is not read or written

Most documents that cannot be read break a rule of the format, and there is nothing more to tell of them.
Some are found out only because a step of the reading asks for what is not there: a character after the
end of a text, an item of a value that has none. Of those, the account tells what was asked for. So does
the account of a table that cannot be written.
-/

namespace PortMap.Toml

/-- Why a document is not read or written. -/
inductive Fault where
  /-- It breaks a rule of the format. -/
  | malformed
  /-- A text ends where a character of it is asked for. -/
  | textEnds
  /-- A list ends where an item of it is asked for. -/
  | listEnds
  /-- An item is asked for of a value that has none. -/
  | noItems (kind : String)
  /-- A value that has no members is asked for one. -/
  | noMembers (kind : String)
  /-- A field is put into a text. -/
  | putIntoText
  /-- A field of a text is asked for. -/
  | fieldOfText
  /-- A field of a list is asked for, or put into it. -/
  | fieldOfList
  /-- A table is put at the end of a value that is no list. -/
  | noList
  /-- A code point is larger than every number of 32 bits. -/
  | pointTooLarge
  /-- A fraction of a second has more digits than the format of real numbers can hold. -/
  | fractionTooLarge
  /-- The fields are asked for of a value that has none. -/
  | notIterable (kind : String)
  /-- A text without a name goes on in the next line. -/
  | unnamedText
  deriving DecidableEq, Repr

/-- What is told of a document that is not read or written. -/
def Fault.message : Fault → String
  | .malformed => "The document is malformed."
  | .textEnds => "string index out of range"
  | .listEnds => "list index out of range"
  | .noItems kind => "'" ++ kind ++ "' object is not subscriptable"
  | .noMembers kind => "argument of type '" ++ kind ++ "' is not iterable"
  | .putIntoText => "'str' object does not support item assignment"
  | .fieldOfText => "string indices must be integers, not 'str'"
  | .fieldOfList => "list indices must be integers or slices, not str"
  | .noList => "You can only load a file descriptor, filename or list"
  | .pointTooLarge => "Python int too large to convert to C int"
  | .fractionTooLarge => "int too large to convert to float"
  | .notIterable kind => "'" ++ kind ++ "' object is not iterable"
  | .unnamedText => "cannot access local variable 'value' where it is not associated with a value"

end PortMap.Toml
