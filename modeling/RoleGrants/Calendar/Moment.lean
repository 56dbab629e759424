import RoleGrants.Number.Numeral

/-!
# Dates and moments

Days of the Gregorian calendar and moments on them, to the microsecond and with an optional offset
from universal time. They are made through checks that name the first part out of range, and they
are shown in three ways: as a plain text, as a constructor call, and in the international format.
-/

namespace RoleGrants.Calendar

open RoleGrants.Text RoleGrants.Number

/-- A day of the Gregorian calendar. -/
structure Date where
  year : Nat
  month : Nat
  day : Nat
  deriving DecidableEq, Repr

/-- A time on a day, with its distance from universal time in seconds if that is known. -/
structure Moment where
  date : Date
  hour : Nat
  minute : Nat
  second : Nat
  microsecond : Nat
  offset : Option Int
  deriving DecidableEq, Repr

/-- Why a date or a moment does not exist. -/
inductive CalendarFault where
  | year (year : Nat)
  | month
  | day
  | hour
  | minute
  | second
  /-- The offset, in seconds, reaches a whole day. -/
  | offset (seconds : Int)
  deriving DecidableEq, Repr

/-- Whether a year has a leap day. -/
def isLeap (year : Nat) : Bool := year % 4 == 0 && (year % 100 != 0 || year % 400 == 0)

/-- How many days a month has. -/
def daysInMonth (year month : Nat) : Nat :=
  if month = 2 then (if isLeap year then 29 else 28)
  else if month = 4 || month = 6 || month = 9 || month = 11 then 30
  else 31

/-- The date with the given parts. -/
def Date.make (year month day : Nat) : Except CalendarFault Date :=
  if year < 1 || 9999 < year then .error (.year year)
  else if month < 1 || 12 < month then .error .month
  else if day < 1 || daysInMonth year month < day then .error .day
  else .ok ⟨year, month, day⟩

/-- Seconds in a day. -/
def daySeconds : Nat := 86400

/-- The moment with the given parts. The offset is checked before the rest. -/
def Moment.make (year month day hour minute second microsecond : Nat) (offset : Option Int) :
    Except CalendarFault Moment := do
  match offset with
  | some seconds => if daySeconds ≤ seconds.natAbs then throw (.offset seconds)
  | none => pure ()
  let date ← Date.make year month day
  if 23 < hour then throw .hour
  if 59 < minute then throw .minute
  if 59 < second then throw .second
  return ⟨date, hour, minute, second, microsecond, offset⟩

/-! ## Texts -/

/-- The constructor call of a duration of whole seconds: days may be negative, seconds not. -/
def durationCall (seconds : Int) : String :=
  let days := Int.fdiv seconds daySeconds
  let rest := Int.fmod seconds daySeconds
  let parts :=
    (if days = 0 then [] else ["days=" ++ String.ofList (decimalInt days)])
      ++ (if rest = 0 then [] else ["seconds=" ++ String.ofList (decimalInt rest)])
  "datetime.timedelta(" ++ (if parts.isEmpty then "0" else ", ".intercalate parts) ++ ")"

/-- The message of a fault. -/
def CalendarFault.message : CalendarFault → String
  | .year n => "year " ++ String.ofList (decimal n) ++ " is out of range"
  | .month => "month must be in 1..12"
  | .day => "day is out of range for month"
  | .hour => "hour must be in 0..23"
  | .minute => "minute must be in 0..59"
  | .second => "second must be in 0..59"
  | .offset n =>
    "offset must be a timedelta strictly between -timedelta(hours=24) and timedelta(hours=24), not "
      ++ durationCall n ++ "."

/-- A day as `year-month-day`. -/
def Date.text (d : Date) : List Char :=
  decimalPadded 4 d.year ++ '-' :: decimalPadded 2 d.month ++ '-' :: decimalPadded 2 d.day

/-- An offset as hours and minutes, and seconds if there are any. -/
def offsetText (seconds : Int) : List Char :=
  let n := seconds.natAbs
  (if seconds < 0 then '-' else '+') :: decimalPadded 2 (n / 3600)
    ++ ':' :: decimalPadded 2 (n / 60 % 60)
    ++ (if n % 60 = 0 then [] else ':' :: decimalPadded 2 (n % 60))

/-- A moment as its day and its time, with a separator between them. -/
def Moment.textWith (separator : Char) (m : Moment) : List Char :=
  m.date.text ++ separator :: decimalPadded 2 m.hour ++ ':' :: decimalPadded 2 m.minute
    ++ ':' :: decimalPadded 2 m.second
    ++ (if m.microsecond = 0 then [] else '.' :: decimalPadded 6 m.microsecond)
    ++ (m.offset.map offsetText).getD []

/-- A moment as a plain text. -/
def Moment.text (m : Moment) : List Char := m.textWith ' '

/-- A moment in the international format. -/
def Moment.isoText (m : Moment) : List Char := m.textWith 'T'

/-- The constructor call of a day. -/
def Date.call (d : Date) : String :=
  "datetime.date(" ++ ", ".intercalate
    ([d.year, d.month, d.day].map fun n => String.ofList (decimal n)) ++ ")"

/-- The constructor call of a time zone. -/
def zoneCall (seconds : Int) : String :=
  if seconds = 0 then "datetime.timezone.utc"
  else "datetime.timezone(" ++ durationCall seconds ++ ")"

/-- The constructor call of a moment: seconds and microseconds are left out where they are zero. -/
def Moment.call (m : Moment) : String :=
  let parts := [m.date.year, m.date.month, m.date.day, m.hour, m.minute]
    ++ (if m.microsecond = 0 then (if m.second = 0 then [] else [m.second])
        else [m.second, m.microsecond])
  "datetime.datetime(" ++ ", ".intercalate (parts.map fun n => String.ofList (decimal n))
    ++ (match m.offset with
        | some seconds => ", tzinfo=" ++ zoneCall seconds
        | none => "")
    ++ ")"

/-! ## Counting days -/

/-- The days from the start of year 1 to the start of a year. -/
def daysBeforeYear (year : Nat) : Nat :=
  let y := year - 1
  y * 365 + y / 4 - y / 100 + y / 400

/-- The days from the start of year 1 to a date. -/
def Date.days (d : Date) : Nat :=
  (List.range (d.month - 1)).foldl (fun days m => days + daysInMonth d.year (m + 1))
    (daysBeforeYear d.year) + (d.day - 1)

/-- The microseconds from the start of year 1 in universal time, if the distance from it is known. -/
def Moment.instant? (m : Moment) : Option Int :=
  m.offset.map fun offset =>
    (m.date.days * daySeconds + m.hour * 3600 + m.minute * 60 + m.second - offset) * 1000000
      + m.microsecond

/-- Whether two moments are the same: instants where the distance from universal time is known, and
times on a day where it is not. -/
def Moment.isSame (m n : Moment) : Bool :=
  match m.instant?, n.instant? with
  | some x, some y => x == y
  | none, none => m == n
  | _, _ => false

/-- One instant at two distances from universal time. -/
example : Moment.isSame ⟨⟨2001, 1, 1⟩, 0, 30, 0, 0, some 3600⟩
    ⟨⟨2000, 12, 31⟩, 23, 30, 0, 0, some 0⟩ = true := by decide

/-- The date a number of days after another number of the same month's days; months that are
full are passed over. -/
def dateInYear (year : Nat) : Nat → Nat → Nat → Date
  | 0, month, rest => ⟨year, month, rest + 1⟩
  | fuel + 1, month, rest =>
    if rest < daysInMonth year month then ⟨year, month, rest + 1⟩
    else dateInYear year fuel (month + 1) (rest - daysInMonth year month)

/-- The date that follows 1 January of year 1 by a number of days. -/
def Date.ofDays (days : Nat) : Date :=
  let guess := days / 366 + 1
  let year := (List.range 30).foldl
    (fun y _ => if daysBeforeYear (y + 1) ≤ days then y + 1 else y) guess
  dateInYear year 12 1 (days - daysBeforeYear year)

/-- The days from the start of year 1 to 1 January 1970. -/
def unixEpochDays : Nat := 719162

/-- The moment a number of seconds after the start of 1970, in universal time, if it lies in the
years 1 to 9999. -/
def Moment.ofUnixSeconds (seconds : Int) (microsecond : Nat) : Option Moment :=
  let total := seconds + unixEpochDays * daySeconds
  let days := Int.fdiv total daySeconds
  let rest := (Int.fmod total daySeconds).toNat
  if days < 0 || daysBeforeYear 10000 ≤ days then none
  else some ⟨Date.ofDays days.toNat, rest / 3600, rest / 60 % 60, rest % 60, microsecond, some 0⟩

end RoleGrants.Calendar
