import RoleGrants.Calendar.Moment
import RoleGrants.Text.Quoted

/-!
# Faults of YAML texts

A text is malformed when it is no YAML document, or one whose structure or tags make no value. A
scalar that has a sensible tag and senseless text is a fault of its own kind, because the message
shows the text. A reader may also give up for a reason of its own, such as collections that lie too
deep in one another for it.
-/

namespace RoleGrants.Yaml

open RoleGrants.Text RoleGrants.Number RoleGrants.Calendar

/-- What the text of a scalar fails to be, or what is wrong with the value it gives. -/
inductive ScalarFault where
  | notInteger (base : Nat) (text : List Char)
  /-- A decimal numeral is longer than numerals may be. -/
  | oversizedInteger (digits : Nat)
  | notNumber (text : List Char)
  /-- A whole number is beyond the range of floating point. -/
  | oversizedNumber
  /-- Nothing is left of a numeral but its sign. -/
  | emptyNumeral
  | notBoolean (word : List Char)
  | notTimestamp
  /-- A mapping stands where a text is looked into. -/
  | notText
  | calendar (fault : CalendarFault)
  /-- An escape gives a number that is no code point. -/
  | notCodePoint
  /-- An escape gives a number beyond 31 bits. -/
  | oversizedCodePoint
  /-- An integer takes more digits than may be written. -/
  | unwritableInteger
  deriving DecidableEq, Repr

/-- The message of a scalar fault. -/
def ScalarFault.message : ScalarFault → String
  | .notInteger base text =>
    "invalid literal for int() with base " ++ String.ofList (decimal base) ++ ": "
      ++ String.ofList ((quoted text).take 200)
  | .oversizedInteger digits =>
    "Exceeds the limit (4300 digits) for integer string conversion: value has "
      ++ String.ofList (decimal digits)
      ++ " digits; use sys.set_int_max_str_digits() to increase the limit"
  | .notNumber text => "could not convert string to float: " ++ String.ofList (quoted text)
  | .oversizedNumber => "int too large to convert to float"
  | .emptyNumeral => "string index out of range"
  | .notBoolean word => String.ofList (quoted word)
  | .notTimestamp => "'NoneType' object has no attribute 'groupdict'"
  | .notText => "expected string or bytes-like object, got 'list'"
  | .calendar fault => fault.message
  | .notCodePoint => "chr() arg not in range(0x110000)"
  | .oversizedCodePoint => "Python int too large to convert to C int"
  | .unwritableInteger =>
    "Exceeds the limit (4300 digits) for integer string conversion"
      ++ "; use sys.set_int_max_str_digits() to increase the limit"

/-- Why a text gives no value. -/
inductive Fault where
  | malformed
  | scalar (fault : ScalarFault)
  /-- The reader gives up. -/
  | abandoned (message : String)
  deriving DecidableEq, Repr

end RoleGrants.Yaml
