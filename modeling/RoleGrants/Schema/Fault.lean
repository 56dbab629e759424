import RoleGrants.Value

/-!
# Faults of a document

A fault says where a document departs from its schema, as a path of fields and positions, and how.
A reader collects all faults, so a report lists each of them once, in the order in which the fields
are declared.
-/

namespace RoleGrants.Schema

/-- A rule that relates several fields of a record. -/
inductive Rule where
  /-- A service account subject has no namespace. -/
  | accountNeedsNamespace (subject : String)
  /-- A membership requirement lists no values. -/
  | operatorNeedsValues (operator key : String)
  /-- A presence requirement lists values. -/
  | operatorTakesNoValues (operator key : String)
  /-- Two bindings of a definition share a name. -/
  | duplicateBinding (binding definition : String)
  deriving DecidableEq, Repr

/-- The wording of a rule that is broken. -/
def Rule.message : Rule → String
  | .accountNeedsNamespace subject =>
    "ServiceAccount subject '" ++ subject ++ "' requires a namespace"
  | .operatorNeedsValues operator key =>
    "Operator " ++ operator ++ " on '" ++ key ++ "' requires values"
  | .operatorTakesNoValues operator key =>
    "Operator " ++ operator ++ " on '" ++ key ++ "' does not take values"
  | .duplicateBinding binding definition =>
    "Duplicate binding name '" ++ binding ++ "' in '" ++ definition ++ "'"

/-- Why a text is no moment. -/
inductive MomentProblem where
  | tooShort
  | yearCharacter
  | monthCharacter
  | dayCharacter
  | dateSeparator
  | monthRange
  | dayRange
  | extraCharacters
  /-- A count of seconds that lies after the year 9999. -/
  | tooLate
  /-- A count of seconds that lies before the year 1. -/
  | tooEarly
  deriving DecidableEq, Repr

/-- The wording of a moment problem. -/
def MomentProblem.wording : MomentProblem → String
  | .tooShort => "input is too short"
  | .yearCharacter => "invalid character in year"
  | .monthCharacter => "invalid character in month"
  | .dayCharacter => "invalid character in day"
  | .dateSeparator => "invalid date separator, expected \x60-\x60"
  | .monthRange => "month value is outside expected range of 1-12"
  | .dayRange => "day value is outside expected range"
  | .extraCharacters => "unexpected extra characters at the end of the input"
  | .tooLate => "dates after 9999 are not supported as unix timestamps"
  | .tooEarly => "dates before 0000 are not supported as unix timestamps"

/-- How a value departs from its schema. -/
inductive Problem where
  /-- A required field is absent. -/
  | required
  /-- A field is not known. -/
  | unknownField
  /-- A field name is not a text. -/
  | fieldNotText
  | notText
  /-- Bytes stand for a text and do not decode. -/
  | notUnicode
  | emptyText
  /-- A text is none of the listed ones. -/
  | notOneOf (choices : List String)
  | notList
  | notTuple
  | notMapping
  /-- A record of the named kind is expected. -/
  | notRecord (kind : String)
  /-- A tuple that needs a member has none that is valid. -/
  | emptyTuple
  | notBoolean
  /-- A text or a number that could have been a boolean is none. -/
  | unreadableBoolean
  | notInteger
  | unreadableInteger
  | fractional
  | oversizedInteger
  | infiniteNumber
  | negative
  | notMoment
  | unreadableMoment (problem : MomentProblem)
  | broken (rule : Rule)
  deriving DecidableEq, Repr

/-- Alternatives in quotes: `'a', 'b' or 'c'`. -/
def alternatives : List String → String
  | [] => ""
  | [a] => "'" ++ a ++ "'"
  | [a, b] => "'" ++ a ++ "' or '" ++ b ++ "'"
  | a :: rest => "'" ++ a ++ "', " ++ alternatives rest

/-- The wording of a problem. -/
def Problem.message : Problem → String
  | .required => "Field required"
  | .unknownField => "Extra inputs are not permitted"
  | .fieldNotText => "Keys should be strings"
  | .notText => "Input should be a valid string"
  | .notUnicode => "Input should be a valid string, unable to parse raw data as a unicode string"
  | .emptyText => "String should have at least 1 character"
  | .notOneOf choices => "Input should be " ++ alternatives choices
  | .notList => "Input should be a valid list"
  | .notTuple => "Input should be a valid tuple"
  | .notMapping => "Input should be a valid dictionary"
  | .notRecord kind => "Input should be a valid dictionary or instance of " ++ kind
  | .emptyTuple => "Tuple should have at least 1 item after validation, not 0"
  | .notBoolean => "Input should be a valid boolean"
  | .unreadableBoolean => "Input should be a valid boolean, unable to interpret input"
  | .notInteger => "Input should be a valid integer"
  | .unreadableInteger => "Input should be a valid integer, unable to parse string as an integer"
  | .fractional => "Input should be a valid integer, got a number with a fractional part"
  | .oversizedInteger => "Unable to parse input string as an integer, exceeded maximum size"
  | .infiniteNumber => "Input should be a finite number"
  | .negative => "Input should be greater than or equal to 0"
  | .notMoment => "Input should be a valid datetime"
  | .unreadableMoment problem => "Input should be a valid datetime or date, " ++ problem.wording
  | .broken rule => "Value error, " ++ rule.message

/-- A problem and the path to it. -/
structure Fault where
  path : List String
  problem : Problem
  deriving DecidableEq, Repr

/-- The text of a path: its parts with points between them, or a word for the whole document. -/
def pathText (path : List String) : String :=
  let text := ".".intercalate path
  if text.isEmpty then "<root>" else text

/-- The report of one fault. -/
def Fault.message (f : Fault) : String := pathText f.path ++ ": " ++ f.problem.message

/-- The report of several faults. -/
def report (faults : List Fault) : String := "; ".intercalate (faults.map Fault.message)

end RoleGrants.Schema
