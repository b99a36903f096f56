import PortMap.Ipv4.Address
import PortMap.Text.Abridged

/-!
# What is wrong with settings

A problem is what is wrong with one value; an issue is a problem with the path to the value and the
value itself. `Issue.report` is the account of all issues that a user sees.
-/

namespace PortMap.Settings

/-- What is wrong with a value. -/
inductive Problem where
  /-- It is no table, as the settings of the name given have to be. -/
  | notTable (model : String)
  /-- It is of a kind that is no number. -/
  | notNumber
  /-- It is a text that is no numeral. -/
  | notNumeral
  /-- It is of a kind that is no whole number. -/
  | notWhole
  /-- It is a text that is no whole numeral. -/
  | notWholeNumeral
  /-- It has too many digits. -/
  | tooManyDigits
  /-- It is a number with a fraction. -/
  | fractional
  /-- It is infinite or not a number. -/
  | notFinite
  /-- It is of a kind that is no truth value. -/
  | notFlag
  /-- It is no word or number for a truth value. -/
  | notFlagWord
  /-- It is no text. -/
  | notText
  /-- It is a text with halves of surrogate pairs. -/
  | notUnicode
  /-- It is no address. -/
  | notAddress (cause : Address.Fault)
  /-- It is no name of a log level. -/
  | notLevel
  /-- It is not greater than the limit. -/
  | notAbove (limit : Nat)
  /-- It is less than the limit. -/
  | below (limit : Nat)
  /-- It is greater than the limit. -/
  | above (limit : Nat)
  deriving DecidableEq, Repr

/-- The name of a problem. -/
def Problem.code : Problem → String
  | .notTable _ => "model_type"
  | .notNumber => "float_type"
  | .notNumeral => "float_parsing"
  | .notWhole => "int_type"
  | .notWholeNumeral => "int_parsing"
  | .tooManyDigits => "int_parsing_size"
  | .fractional => "int_from_float"
  | .notFinite => "finite_number"
  | .notFlag => "bool_type"
  | .notFlagWord => "bool_parsing"
  | .notText => "string_type"
  | .notUnicode => "string_unicode"
  | .notAddress _ => "value_error"
  | .notLevel => "enum"
  | .notAbove _ => "greater_than"
  | .below _ => "greater_than_equal"
  | .above _ => "less_than_equal"

/-- What is told of a problem. -/
def Problem.message : Problem → String
  | .notTable model => "Input should be a valid dictionary or instance of " ++ model
  | .notNumber => "Input should be a valid number"
  | .notNumeral => "Input should be a valid number, unable to parse string as a number"
  | .notWhole => "Input should be a valid integer"
  | .notWholeNumeral => "Input should be a valid integer, unable to parse string as an integer"
  | .tooManyDigits => "Unable to parse input string as an integer, exceeded maximum size"
  | .fractional => "Input should be a valid integer, got a number with a fractional part"
  | .notFinite => "Input should be a finite number"
  | .notFlag => "Input should be a valid boolean"
  | .notFlagWord => "Input should be a valid boolean, unable to interpret input"
  | .notText => "Input should be a valid string"
  | .notUnicode => "Input should be a valid string, unable to parse raw data as a unicode string"
  | .notAddress cause => "Value error, " ++ cause.message
  | .notLevel => "Input should be 'DEBUG', 'INFO', 'WARNING', 'ERROR' or 'CRITICAL'"
  | .notAbove limit => "Input should be greater than " ++ toString limit
  | .below limit => "Input should be greater than or equal to " ++ toString limit
  | .above limit => "Input should be less than or equal to " ++ toString limit

/-- A problem of one value among the settings. -/
structure Issue where
  /-- The names of the fields that lead to the value. -/
  path : List String
  /-- What is wrong. -/
  problem : Problem
  /-- The value. -/
  input : Value

namespace Issue

/-- The issue as seen from a table that holds the first one under a name. -/
def within (name : String) (i : Issue) : Issue := { i with path := name :: i.path }

/-- The lines of a report on one issue. -/
def lines (i : Issue) : String :=
  "\n" ++ Value.joined "." i.path ++ "\n  " ++ i.problem.message ++ " [type=" ++ i.problem.code
    ++ ", input_value=" ++ Text.abridged i.input.literal ++ ", input_type=" ++ i.input.kindName ++ "]"

/-- The report on the issues of the settings of the name given. -/
def report (model : String) (issues : List Issue) : String :=
  toString issues.length ++ " validation error" ++ (if issues.length = 1 then "" else "s") ++ " for "
    ++ model ++ String.join (issues.map lines)

end Issue

end PortMap.Settings
