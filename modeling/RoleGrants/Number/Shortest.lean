import RoleGrants.Number.Binary64

/-!
# The shortest numeral of a floating-point number

The fewest decimal digits that read back as the same number, and of those the nearest to it. The
numbers that read back as `m * 2 ^ e` form an interval that reaches half way to the neighbours, its
ends included when `m` is even. For 1, 2, … 17 digits the two points of the decimal grid around the
number are tried; the first grid with a point in the interval decides.
-/

namespace RoleGrants.Number

/-- A positive decimal fraction `0.d₁d₂… * 10 ^ point`, without zeros at its end. -/
structure Decimal where
  digits : List Char
  point : Int
  deriving DecidableEq, Repr

namespace Binary64

/-- A positive number with its interval, all over one denominator. -/
structure Interval where
  value : Nat
  low : Nat
  high : Nat
  closed : Bool
  denominator : Nat

/-- The interval of `m * 2 ^ e`. Below a power of two the next number is only half as far. -/
def interval (m : Nat) (e : Int) : Interval :=
  let scale := Nat.pow 2 e.toNat
  let below := if m = Nat.pow 2 52 && minExponent < e then 1 else 2
  { value := 4 * m * scale
    low := (4 * m - below) * scale
    high := (4 * m + 2) * scale
    closed := m % 2 == 0
    denominator := 4 * Nat.pow 2 (-e).toNat }

/-- Whether `digits * 10 ^ grid` lies in an interval. -/
def Interval.contains (i : Interval) (digits : Nat) (grid : Int) : Bool :=
  let point := digits * Nat.pow 10 grid.toNat * i.denominator
  let low := i.low * Nat.pow 10 (-grid).toNat
  let high := i.high * Nat.pow 10 (-grid).toNat
  if i.closed then low ≤ point && point ≤ high else low < point && point < high

/-- How many zeros stand between the point and the first digit of `num / den < 1`. -/
def leadingZeros (den : Nat) : Nat → Nat → Nat
  | 0, _ => 0
  | fuel + 1, num => if num * 10 < den then leadingZeros den fuel (num * 10) + 1 else 0

/-- The least `k` with a value below `10 ^ k`. -/
def Interval.scale (i : Interval) : Int :=
  if i.denominator ≤ i.value then (decimal (i.value / i.denominator)).length
  else -(leadingZeros i.denominator 330 i.value : Int)

/-- The point of a grid in the interval, if one is: of two the nearer, on a tie the even one. -/
def Interval.onGrid (i : Interval) (grid : Int) : Option Nat :=
  let num := i.value * Nat.pow 10 (-grid).toNat
  let den := i.denominator * Nat.pow 10 grid.toNat
  let q := num / den
  match i.contains q grid, i.contains (q + 1) grid with
  | true, true => some (roundHalfEven num den)
  | true, false => some q
  | false, true => some (q + 1)
  | false, false => none

/-- The digits of a point of a grid, zeros at the end left out. -/
def decimalOf (n : Nat) (grid : Int) : Decimal :=
  let digits := decimal n
  ⟨(digits.reverse.dropWhile (· == '0')).reverse, grid + digits.length⟩

/-- The shortest decimal of the positive number `m * 2 ^ e`. -/
def shortest (m : Nat) (e : Int) : Decimal :=
  let i := interval m e
  let k := i.scale
  let found := (List.range 17).findSome? fun n =>
    let grid := k - (n + 1 : Nat)
    (i.onGrid grid).map (decimalOf · grid)
  found.getD (decimalOf (i.value * Nat.pow 10 1100 / i.denominator) (-1100))

/-! ## Layout -/

/-- The decisions of a style of writing floating-point numbers. -/
structure NumeralStyle where
  /-- Whether a mantissa of one digit is written with a point before the exponent. -/
  pointBeforeExponent : Bool
  nan : String
  infinity : String
  negativeInfinity : String

/-- A decimal written positionally. -/
def Decimal.positional (d : Decimal) : List Char :=
  if d.point ≤ 0 then '0' :: '.' :: List.replicate (-d.point).toNat '0' ++ d.digits
  else
    let n := d.point.toNat
    if d.digits.length ≤ n then d.digits ++ List.replicate (n - d.digits.length) '0' ++ ['.', '0']
    else d.digits.take n ++ '.' :: d.digits.drop n

/-- A decimal with an exponent, which has a sign and at least two digits. -/
def Decimal.scientific (pointed : Bool) (d : Decimal) : List Char :=
  let e := d.point - 1
  let mantissa := match d.digits with
    | [] => ['0']
    | [c] => if pointed then [c, '.', '0'] else [c]
    | c :: rest => c :: '.' :: rest
  mantissa ++ 'e' :: (if e < 0 then '-' else '+') :: decimalPadded 2 e.natAbs

/-- The numeral of a number: positional while the first digit stands within four places behind
and sixteen places before the point, else with an exponent. -/
def numeral (style : NumeralStyle) : Binary64 → List Char
  | .nan => style.nan.toList
  | .infinite negative => (if negative then style.negativeInfinity else style.infinity).toList
  | .finite negative m e =>
    let body :=
      if m = 0 then ['0', '.', '0']
      else
        let d := shortest m e
        if -4 < d.point && d.point ≤ 16 then Decimal.positional d
        else Decimal.scientific style.pointBeforeExponent d
    if negative then '-' :: body else body

/-- The style used inside messages. -/
def messageNumerals : NumeralStyle := ⟨false, "nan", "inf", "-inf"⟩

end Binary64

end RoleGrants.Number
