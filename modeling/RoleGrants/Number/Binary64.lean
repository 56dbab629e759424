import RoleGrants.Number.Numeral

/-!
# Binary floating-point numbers

Numbers of 53 significant bits as exact data. A finite value is kept as a sign, a mantissa below
2^53 and an exponent, in the one form in which the mantissa is as long as the exponent range
allows; so two finite values of one sign are equal exactly when their parts are. Every operation
computes the exact rational result and rounds it once, to nearest and on a tie to even.
-/

namespace RoleGrants.Number

/-- A floating-point number. -/
inductive Binary64 where
  | nan
  | infinite (negative : Bool)
  /-- The value `mantissa * 2 ^ exponent`, with a sign that zero has too. -/
  | finite (negative : Bool) (mantissa : Nat) (exponent : Int)
  deriving DecidableEq, Repr

namespace Binary64

/-- The least exponent. -/
def minExponent : Int := -1074

/-- The greatest exponent. -/
def maxExponent : Int := 971

/-- `num / den` to the nearest integer, a half to the even neighbour. -/
def roundHalfEven (num den : Nat) : Nat :=
  let q := num / den
  let r := num % den
  if 2 * r < den then q
  else if den < 2 * r then q + 1
  else if q % 2 = 0 then q
  else q + 1

/-- `a * 2 ^ e` for a non-negative `e`, else `a`. -/
def scaleUp (a : Nat) (e : Int) : Nat := a * Nat.pow 2 e.toNat

/-- The exponent at which a positive quotient has a mantissa of 53 bits. -/
def exponentOf (num den : Nat) : Int :=
  let k : Int := (Nat.log2 num : Int) - (Nat.log2 den : Int)
  if scaleUp den k ≤ scaleUp num (-k) then k - 52 else k - 53

/-- The number nearest to `num / den`. -/
def ofRatio (negative : Bool) (num den : Nat) : Binary64 :=
  if num = 0 then .finite negative 0 minExponent
  else
    let e := max (exponentOf num den) minExponent
    let m := roundHalfEven (scaleUp num (-e)) (scaleUp den e)
    let (m, e) := if m = Nat.pow 2 53 then (Nat.pow 2 52, e + 1) else (m, e)
    if maxExponent < e then .infinite negative else .finite negative m e

/-- The number nearest to an integer. -/
def ofInt (n : Int) : Binary64 := ofRatio (n < 0) n.natAbs 1

/-- The number nearest to `digits * 10 ^ exponent`. Exponents far outside the range are settled
without computing the power. -/
def ofDecimal (negative : Bool) (digits : Nat) (exponent : Int) : Binary64 :=
  let magnitude := exponent + (decimal digits).length
  if digits = 0 || magnitude < -330 then .finite negative 0 minExponent
  else if 320 < magnitude then .infinite negative
  else ofRatio negative (digits * Nat.pow 10 exponent.toNat) (Nat.pow 10 (-exponent).toNat)

/-- The exact value of a finite number over `2 ^ 1074`. -/
def overUnit (negative : Bool) (m : Nat) (e : Int) : Int :=
  signed negative (m * Nat.pow 2 (e + 1074).toNat)

/-- The sum, rounded. -/
def add : Binary64 → Binary64 → Binary64
  | .nan, _ | _, .nan => .nan
  | .infinite a, .infinite b => if a = b then .infinite a else .nan
  | .infinite a, _ => .infinite a
  | _, .infinite b => .infinite b
  | .finite a m e, .finite b n f =>
    let total := overUnit a m e + overUnit b n f
    if total = 0 then .finite (a && b) 0 minExponent
    else ofRatio (total < 0) total.natAbs (Nat.pow 2 1074)

/-- The product, rounded. -/
def mul : Binary64 → Binary64 → Binary64
  | .nan, _ | _, .nan => .nan
  | .infinite a, .infinite b => .infinite (a != b)
  | .infinite a, .finite b n _ => if n = 0 then .nan else .infinite (a != b)
  | .finite a m _, .infinite b => if m = 0 then .nan else .infinite (a != b)
  | .finite a m e, .finite b n f =>
    ofRatio (a != b) (scaleUp (m * n) (e + f)) (Nat.pow 2 (-(e + f)).toNat)

/-- The number with the other sign. -/
def neg : Binary64 → Binary64
  | .nan => .nan
  | .infinite a => .infinite !a
  | .finite a m e => .finite (!a) m e

/-- The integer that a number is, if it is one. -/
def toInt? : Binary64 → Option Int
  | .finite a m e =>
    if 0 ≤ e then some (signed a (m * Nat.pow 2 e.toNat))
    else
      let d := Nat.pow 2 (-e).toNat
      if m % d = 0 then some (signed a (m / d)) else none
  | _ => none

/-- Whether a number is zero, of either sign. -/
def isZero : Binary64 → Bool
  | .finite _ m _ => m == 0
  | _ => false

/-- Numeric equality: zero equals zero whatever the signs, and NaN equals nothing. -/
def sameNumber : Binary64 → Binary64 → Bool
  | .nan, _ | _, .nan => false
  | x, y => x == y || (x.isZero && y.isZero)

/-! ## Reading -/

/-- The decimal numeral `digits . digits e exponent` behind a sign: at least one digit in front of
or behind the point, and an exponent with at least one digit if it is marked. -/
def unsigned? (negative : Bool) (s : List Char) : Option Binary64 :=
  let word := String.ofList (s.map Char.toLower)
  if word = "inf" || word = "infinity" then some (.infinite negative)
  else if word = "nan" then some .nan
  else
    let s := s.map fun c => match Text.decimalDigit? c with
      | some d => Char.ofNat (48 + d)
      | none => c
    let whole := s.takeWhile isDigit
    let rest := s.dropWhile isDigit
    let (fraction, rest) := match rest with
      | '.' :: t => (t.takeWhile isDigit, t.dropWhile isDigit)
      | t => ([], t)
    if whole.isEmpty && fraction.isEmpty then none
    else
      let value := fun (e : Int) =>
        some (ofDecimal negative (naturalOf (whole ++ fraction)) (e - fraction.length))
      match rest with
      | [] => value 0
      | mark :: t =>
        if mark.toLower = 'e' then
          let (down, digits) := splitSign t
          if !digits.isEmpty && digits.all isDigit then value (signed down (naturalOf digits))
          else none
        else none

/-- The number that a text spells, blanks around it ignored. -/
def ofText? (s : List Char) : Option Binary64 :=
  let (negative, rest) := splitSign (Text.trim s)
  unsigned? negative rest

end Binary64

end RoleGrants.Number
