import RoleGrants.Yaml.Fault
import RoleGrants.Yaml.Tag
import RoleGrants.Value
import RoleGrants.Text.Base64

/-!
# Values of scalars

The value that a tag gives the text of a scalar. A tag that was written out may meet any text, so
each reader says what it makes of texts that the form of a plain scalar would never have sent it.
-/

namespace RoleGrants.Yaml

open RoleGrants.Text RoleGrants.Number RoleGrants.Calendar

/-- An integer numeral in a base. -/
def integerIn (base : Nat) (s : List Char) : Except Fault Int :=
  match Number.integer? base s with
  | none => .error (.scalar (.notInteger base s))
  | some n =>
    let digits := (s.filter isDigit).length
    if base = 10 && maxDigits < digits then .error (.scalar (.oversizedInteger digits)) else .ok n

/-- The sum of parts in base 60, the last part counting ones. -/
def sexagesimal (parts : List Int) : Int := parts.foldl (fun acc part => acc * 60 + part) 0

/-- The text of a numeral without underscores and without its sign. -/
def numeralBody (s : List Char) : Except Fault (Bool × List Char) :=
  match s.filter (· ≠ '_') with
  | [] => .error (.scalar .emptyNumeral)
  | s => .ok (splitSign s)

/-- The integer of a scalar. -/
def readInteger (text : List Char) : Except Fault Int := do
  let (negative, s) ← numeralBody text
  let magnitude ← match s with
    | [] => throw (.scalar .emptyNumeral)
    | ['0'] => pure 0
    | '0' :: 'b' :: digits => integerIn 2 digits
    | '0' :: 'x' :: digits => integerIn 16 digits
    | '0' :: _ => integerIn 8 s
    | _ =>
      if s.contains ':' then do
        let parts ← (splitAt ':' s).mapM (integerIn 10)
        pure (sexagesimal parts)
      else integerIn 10 s
  return if negative then -magnitude else magnitude

/-- A floating-point numeral. -/
def numberIn (s : List Char) : Except Fault Binary64 :=
  match Binary64.ofText? s with
  | some x => .ok x
  | none => .error (.scalar (.notNumber s))

/-- The weighted sum of parts in base 60, the first part counting `base`. -/
def sexagesimalSum (sum : Binary64) (base : Nat) : List Binary64 → Except Fault Binary64
  | [] => .ok sum
  | part :: rest =>
    match Binary64.ofInt base with
    | .infinite _ => .error (.scalar .oversizedNumber)
    | weight => sexagesimalSum (sum.add (part.mul weight)) (base * 60) rest

/-- The floating-point number of a scalar. -/
def readFloat (text : List Char) : Except Fault Binary64 := do
  let (negative, s) ← numeralBody (text.map Char.toLower)
  let word := String.ofList s
  let magnitude ←
    if word = ".inf" then pure (Binary64.infinite false)
    else if word = ".nan" then pure Binary64.nan
    else if s.contains ':' then do
      let parts ← (splitAt ':' s).mapM numberIn
      sexagesimalSum (.ofInt 0) 1 parts.reverse
    else numberIn s
  return if negative then magnitude.neg else magnitude

/-- The meanings of the truth words. -/
def truthMeanings : List (String × Bool) :=
  [("yes", true), ("no", false), ("true", true), ("false", false), ("on", true), ("off", false)]

/-- The boolean of a scalar. -/
def readBoolean (text : List Char) : Except Fault Bool :=
  let word := text.map Char.toLower
  match truthMeanings.find? fun m => m.1.toList == word with
  | some m => .ok m.2
  | none => .error (.scalar (.notBoolean word))

/-- The microseconds of a fraction of a second; digits behind the sixth are left out. -/
def microseconds (fraction : List Char) : Nat :=
  naturalOf ((fraction ++ List.replicate 6 '0').take 6)

/-- The seconds of a zone. -/
def Zone.seconds : Zone → Int
  | .universal => 0
  | .offset negative hours minutes =>
    signed negative (naturalOf hours * 3600 + naturalOf minutes * 60)

/-- The date or moment of a scalar. -/
def readTimestamp (text : List Char) : Except Fault Value := do
  let calendar := fun {α : Type} (r : Except CalendarFault α) =>
    r.mapError fun fault => Fault.scalar (.calendar fault)
  match Timestamp.ofText? (dropFinalBreak text) with
  | none => throw (.scalar .notTimestamp)
  | some t =>
    let year := naturalOf t.year
    let month := naturalOf t.month
    let day := naturalOf t.day
    match t.time with
    | none => return .date (← calendar (Date.make year month day))
    | some time =>
      return .moment (← calendar (Moment.make year month day (naturalOf time.hour)
        (naturalOf time.minute) (naturalOf time.second) (microseconds time.fraction)
        (time.zone.map Zone.seconds)))

/-- The bytes of a scalar in base 64. -/
def readBinary (text : List Char) : Except Fault (List UInt8) :=
  if text.all fun c => c.toNat < 128 then
    match decodeBase64 text with
    | some bytes => .ok bytes
    | none => .error .malformed
  else .error .malformed

/-- The value of a scalar, if its tag is one of scalars. -/
def readScalar (tag : Tag) (text : List Char) : Except Fault Value :=
  match tag with
  | .str => .ok (.text (String.ofList text))
  | .null => .ok .null
  | .bool => (readBoolean text).map .bool
  | .int => (readInteger text).map .int
  | .float => (readFloat text).map .float
  | .binary => (readBinary text).map .bytes
  | .timestamp => readTimestamp text
  | _ => .error .malformed

end RoleGrants.Yaml
