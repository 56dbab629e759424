import RoleGrants.Text.Blank
import RoleGrants.Text.DecimalDigit

/-!
# Integer numerals

Integers as digits of a base: written without separators, and read the way document scalars and
counters spell them, with blanks around, a sign, a base mark and single underscores between digits.
-/

namespace RoleGrants.Number

open RoleGrants.Text

/-- The longest decimal numeral that is read or written. -/
def maxDigits : Nat := 4300

/-! ## Writing -/

/-- The decimal digits of a natural number. -/
def decimal (n : Nat) : List Char := Nat.toDigits 10 n

/-- The decimal numeral of an integer. -/
def decimalInt : Int → List Char
  | .ofNat n => decimal n
  | .negSucc n => '-' :: decimal (n + 1)

/-- Lower-case hexadecimal digits, zeros added up to a width. -/
def hexadecimal (width n : Nat) : List Char := padLeft width '0' (Nat.toDigits 16 n)

/-- Decimal digits, zeros added up to a width. -/
def decimalPadded (width n : Nat) : List Char := padLeft width '0' (decimal n)

/-! ## Reading -/

/-- The value of a digit or letter in bases up to 36; decimal digits of every script count. -/
def digitValue (c : Char) : Option Nat :=
  if '0' ≤ c ∧ c ≤ '9' then some (c.toNat - 48)
  else if 'a' ≤ c ∧ c ≤ 'z' then some (c.toNat - 87)
  else if 'A' ≤ c ∧ c ≤ 'Z' then some (c.toNat - 55)
  else decimalDigit? c

/-- The number that digits spell after the ones already read; a single underscore may stand
between two digits. -/
def digitsAfter (base acc : Nat) : List Char → Option Nat
  | [] => some acc
  | '_' :: c :: s =>
    match digitValue c with
    | some d => if d < base then digitsAfter base (acc * base + d) s else none
    | none => none
  | c :: s =>
    match digitValue c with
    | some d => if d < base then digitsAfter base (acc * base + d) s else none
    | none => none

/-- The number that a non-empty run of digits spells. -/
def digits? (base : Nat) : List Char → Option Nat
  | [] => none
  | '_' :: _ => none
  | s => digitsAfter base 0 s

/-- The letter that marks a base in `0b`, `0o` and `0x`. -/
def baseMark : Nat → Option Char
  | 2 => some 'b'
  | 8 => some 'o'
  | 16 => some 'x'
  | _ => none

/-- The digits behind an optional base mark, which an underscore may follow. -/
def dropBaseMark (base : Nat) : List Char → List Char
  | '0' :: m :: s =>
    if baseMark base = some m.toLower then
      match s with
      | '_' :: c :: t => c :: t
      | t => t
    else '0' :: m :: s
  | s => s

/-- Whether a numeral is negative, and what follows its sign. -/
def splitSign : List Char → Bool × List Char
  | '-' :: s => (true, s)
  | '+' :: s => (false, s)
  | s => (false, s)

/-- The integer with a sign and a magnitude. -/
def signed (negative : Bool) (n : Nat) : Int := if negative then -(n : Int) else n

/-- The integer that a text spells in a base, blanks around it ignored. -/
def integer? (base : Nat) (s : List Char) : Option Int :=
  let (negative, digits) := splitSign (trim s)
  (digits? base (dropBaseMark base digits)).map (signed negative)

/-- The number that plain ASCII digits spell, in a text known to hold nothing else. -/
def naturalOf (s : List Char) : Nat := s.foldl (fun acc c => acc * 10 + (c.toNat - 48)) 0

/-- Whether a character is an ASCII digit. -/
def isDigit (c : Char) : Bool := '0' ≤ c && c ≤ '9'

end RoleGrants.Number
