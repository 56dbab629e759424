import RoleGrants.Schema.Check

/-!
# Reading counts and moments

Counts may be given as integers, as floating-point numbers without a fraction, or as texts. Moments
may be given as texts in the international format or as seconds since 1970; numbers that would lie
too far in the future count as milliseconds.
-/

namespace RoleGrants.Schema

open RoleGrants.Text RoleGrants.Number RoleGrants.Calendar

/-! ## Counts -/

/-- The blanks that may surround a number; the information separators are none of them. -/
def isOuterBlank (c : Char) : Bool := isBlank c && !(0x1C ≤ c.toNat && c.toNat ≤ 0x1F)

/-- Digits with single underscores between them. -/
def plainDigits? : List Char → Option (List Char)
  | [c] => if isDigit c then some [c] else none
  | c :: '_' :: s => if isDigit c then (plainDigits? s).map (c :: ·) else none
  | c :: s => if isDigit c then (plainDigits? s).map (c :: ·) else none
  | [] => none

/-- The integer of a text: digits with a sign, and a point and zeros behind them if need be. -/
def integerOfText (s : List Char) : Check Int :=
  let trimmed := ((s.dropWhile isOuterBlank).reverse.dropWhile isOuterBlank).reverse
  let (negative, body) := splitSign trimmed
  let whole := body.takeWhile (· ≠ '.')
  let zeros := (body.drop whole.length).drop 1
  match plainDigits? whole with
  | some digits =>
    if !zeros.all (· = '0') then .problem .unreadableInteger
    else if 4300 < digits.length then .problem .oversizedInteger
    else .ok (signed negative (naturalOf digits))
  | none => .problem .unreadableInteger

/-- An integer. -/
def integer : Reader Int
  | .bool b => .ok (if b then 1 else 0)
  | .int n => .ok n
  | .float x =>
    match x with
    | .finite _ _ _ =>
      match x.toInt? with
      | some n => if fitsWord n then .ok n else .problem .oversizedInteger
      | none => .problem .fractional
    | _ => .problem .infiniteNumber
  | .text s => integerOfText s.toList
  | .bytes b =>
    match decodeUtf8 b with
    | .ok s => integerOfText s
    | .error _ => .problem .unreadableInteger
  | _ => .problem .notInteger

/-- An integer that is not negative. -/
def natural : Reader Nat := fun v =>
  ((integer v).satisfy (fun n => 0 ≤ n) .negative).map Int.toNat

/-! ## Moments -/

/-- Two digits as a number. -/
def twoDigits? (s : List Char) : Option Nat :=
  if s.length = 2 && s.all isDigit then some (naturalOf s) else none

/-- The date at the beginning of a text. -/
def leadingDate (s : List Char) : Except MomentProblem (Date × List Char) := do
  if s.length < 10 then throw .tooShort
  let year := s.take 4
  if !year.all isDigit then throw .yearCharacter
  if s.getD 4 ' ' ≠ '-' then throw .dateSeparator
  match twoDigits? ((s.drop 5).take 2) with
  | none => throw .monthCharacter
  | some month =>
    if s.getD 7 ' ' ≠ '-' then throw .dateSeparator
    match twoDigits? ((s.drop 8).take 2) with
    | none => throw .dayCharacter
    | some day =>
      if month < 1 || 12 < month then throw .monthRange
      if day < 1 || daysInMonth (naturalOf year) month < day then throw .dayRange
      return (⟨naturalOf year, month, day⟩, s.drop 10)

/-- The zone that a text names, in seconds. -/
def zoneSeconds? : List Char → Option (Option Int)
  | [] => some none
  | [c] => if c = 'Z' || c = 'z' then some (some 0) else none
  | sign :: rest => do
    let negative ← if sign = '+' then some false
      else if sign = '-' || sign = '\u2212' then some true else none
    let hours ← twoDigits? (rest.take 2)
    let minutes ← twoDigits? (match rest.drop 2 with
      | ':' :: m => m
      | m => m)
    let seconds := hours * 3600 + minutes * 60
    if minutes < 60 && seconds < daySeconds then return some (signed negative seconds) else none

/-- The time of day that a text names, with its zone. -/
def timeOfDay? (date : Date) (s : List Char) : Option Moment := do
  let hour ← twoDigits? (s.take 2)
  let minute ← if s.getD 2 ' ' = ':' then twoDigits? ((s.drop 3).take 2) else none
  let rest := s.drop 5
  let (second, fraction, rest) ← match rest with
    | ':' :: t => do
      let second ← twoDigits? (t.take 2)
      match t.drop 2 with
      | point :: u =>
        if point = '.' || point = ',' then
          let digits := u.takeWhile isDigit
          if digits.isEmpty then none else some (second, digits, u.dropWhile isDigit)
        else some (second, [], point :: u)
      | [] => some (second, [], [])
    | t => some (0, [], t)
  let zone ← zoneSeconds? rest
  let micros := naturalOf ((fraction ++ List.replicate 6 '0').take 6)
  if hour < 24 && minute < 60 && second < 60 then
    return ⟨date, hour, minute, second, micros, zone⟩
  else none

/-- The moment that a text names in the international format. -/
def momentOfText? (s : List Char) : Option Moment :=
  match leadingDate s with
  | .ok (date, sep :: rest) =>
    if sep = 'T' || sep = 't' || sep = ' ' || sep = '_' then timeOfDay? date rest else none
  | _ => none

/-- The moment a number of seconds after the start of 1970, or of milliseconds if the number is
large. -/
def momentOfCount (n : Int) (micros : Nat) : Except MomentProblem Moment :=
  let (seconds, micros) :=
    if n.natAbs ≤ 20000000000 then (n, micros)
    else (Int.fdiv n 1000, (Int.fmod n 1000).toNat * 1000 + micros)
  match Moment.ofUnixSeconds seconds micros with
  | some m => .ok m
  | none => .error (if n < 0 then .tooEarly else .tooLate)

/-- A count with a fraction: whole seconds, and microseconds to the nearest. -/
def momentOfNumber (negative : Bool) (m : Nat) (e : Int) : Except MomentProblem Moment :=
  let num := m * Nat.pow 2 e.toNat
  let den := Nat.pow 2 (-e).toNat
  let whole := num / den
  let micros := (2 * (num % den) * 1000000 + den) / (2 * den)
  let floor : Int := if negative then -(whole : Int) - (if num % den = 0 then 0 else 1) else whole
  momentOfCount floor micros

/-- A checked moment. -/
def ofProblem : Except MomentProblem Moment → Check Moment
  | .ok m => .ok m
  | .error problem => .problem (.unreadableMoment problem)

/-- The moment of a text that is no moment by its form: a count, a date, or none. -/
def momentOfOtherText (s : List Char) : Check Moment :=
  let (negative, body) := splitSign s
  let whole := body.takeWhile isDigit
  match body.drop whole.length with
  | [] =>
    if whole.isEmpty then dateOnly s
    else ofProblem (momentOfCount (signed negative (naturalOf whole)) 0)
  | '.' :: fraction =>
    if !whole.isEmpty && !fraction.isEmpty && fraction.all isDigit && s.head? ≠ some '+' then
      match Binary64.ofText? s with
      | some (.finite n m e) => ofProblem (momentOfNumber n m e)
      | _ => dateOnly s
    else dateOnly s
  | _ => dateOnly s
where
  /-- The start of the day that a text names. -/
  dateOnly (s : List Char) : Check Moment :=
    match leadingDate s with
    | .error problem => ofProblem (.error problem)
    | .ok (date, []) => .ok ⟨date, 0, 0, 0, 0, none⟩
    | .ok (_, _) => ofProblem (.error .extraCharacters)

/-- A moment. -/
def moment : Reader Moment
  | .moment m => .ok m
  | .date d => .ok ⟨d, 0, 0, 0, 0, none⟩
  | .int n => ofProblem (momentOfCount n 0)
  | .float (.finite negative m e) => ofProblem (momentOfNumber negative m e)
  | .float (.infinite negative) => ofProblem (.error (if negative then .tooEarly else .tooLate))
  | .text s =>
    match momentOfText? s.toList with
    | some m => .ok m
    | none => momentOfOtherText s.toList
  | _ => .problem .notMoment

end RoleGrants.Schema
