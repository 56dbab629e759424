import RoleGrants.Number.Numeral

/-!
# Tags

A tag says what kind of value a node is. A plain scalar without a tag gets one from the form of its
text: booleans, numbers, nulls and timestamps are recognised, and everything else is text.
-/

namespace RoleGrants.Yaml

open RoleGrants.Number RoleGrants.Text

/-- What kind of value a node is. -/
inductive Tag where
  | str
  | null
  | bool
  | int
  | float
  | binary
  | timestamp
  | seq
  | map
  | omap
  | pairs
  | set
  /-- The key whose value is merged into the mapping. -/
  | merge
  /-- The key that stands for the mapping's own value. -/
  | value
  /-- A tag without meaning. -/
  | unknown
  deriving DecidableEq, Repr

/-- The common beginning of the tags that have a meaning. -/
def tagNamespace : List Char := "tag:yaml.org,2002:".toList

/-- The names of the tags behind their common beginning. -/
def Tag.names : List (String × Tag) :=
  [("str", .str), ("null", .null), ("bool", .bool), ("int", .int), ("float", .float),
   ("binary", .binary), ("timestamp", .timestamp), ("seq", .seq), ("map", .map), ("omap", .omap),
   ("pairs", .pairs), ("set", .set), ("merge", .merge), ("value", .value)]

/-- The tag with an identifier. -/
def Tag.ofUri (uri : List Char) : Tag :=
  let n := tagNamespace.length
  if uri.take n = tagNamespace then
    ((names.find? fun t => t.1.toList == uri.drop n).map (·.2)).getD .unknown
  else .unknown

/-! ## Numbers -/

/-- Whether a text is a digit, or two of which the first is at most five. -/
def isSixtieth : List Char → Bool
  | [a] => isDigit a
  | [a, b] => '0' ≤ a && a ≤ '5' && isDigit b
  | _ => false

/-- Whether a character is a digit or an underscore. -/
def isDigitOrLine (c : Char) : Bool := isDigit c || c = '_'

/-- Whether a text is a decimal exponent with its mark and sign, or empty. -/
def isExponent : List Char → Bool
  | [] => true
  | mark :: sign :: digits =>
    (mark = 'e' || mark = 'E') && (sign = '+' || sign = '-') && !digits.isEmpty
      && digits.all isDigit
  | _ => false

/-- Whether a text without its sign is an integer: in base 2, 8, 10 or 16, or in base 60 with
colons. -/
def isInteger : List Char → Bool
  | '0' :: 'b' :: s => !s.isEmpty && s.all fun c => c = '0' || c = '1' || c = '_'
  | '0' :: 'x' :: s =>
    !s.isEmpty && s.all fun c => isDigitOrLine c || ('a' ≤ c && c ≤ 'f') || ('A' ≤ c && c ≤ 'F')
  | '0' :: s => s.all fun c => ('0' ≤ c && c ≤ '7') || c = '_'
  | c :: s =>
    '1' ≤ c && c ≤ '9' &&
      match splitAt ':' s with
      | [] => true
      | first :: rest => first.all isDigitOrLine && rest.all isSixtieth
  | [] => false

/-- Whether a text without its sign is a number in base 60 with a point. -/
def isSexagesimal : List Char → Bool
  | [] => false
  | c :: s =>
    isDigit c &&
      let fraction := s.dropWhile (· ≠ '.')
      match splitAt ':' (s.takeWhile (· ≠ '.')) with
      | first :: second :: rest =>
        first.all isDigitOrLine && (second :: rest).all isSixtieth && !fraction.isEmpty
          && (fraction.drop 1).all isDigitOrLine
      | _ => false

/-- Whether a text is a number with a point. A sign needs a digit in front of the point, unless
infinity is meant. -/
def isFloat (s : List Char) : Bool :=
  let (_, body) := splitSign s
  let unsigned := body.length = s.length
  match body with
  | '.' :: rest =>
    let word := String.ofList rest
    word = "inf" || word = "Inf" || word = "INF"
      || (unsigned && (word = "nan" || word = "NaN" || word = "NAN"))
      || (unsigned && (rest.head?.map isDigit).getD false
        && isExponent (rest.dropWhile isDigitOrLine))
  | c :: _ =>
    (isDigit c &&
      match body.dropWhile isDigitOrLine with
      | '.' :: rest => isExponent (rest.dropWhile isDigitOrLine)
      | _ => false)
      || isSexagesimal body
  | [] => false

/-! ## Timestamps -/

/-- The zone of a timestamp. -/
inductive Zone where
  | universal
  | offset (negative : Bool) (hours minutes : List Char)
  deriving DecidableEq, Repr

/-- The time of day of a timestamp, in digits. -/
structure TimestampTime where
  hour : List Char
  minute : List Char
  second : List Char
  fraction : List Char
  zone : Option Zone
  deriving DecidableEq, Repr

/-- The parts of a timestamp, in digits. -/
structure Timestamp where
  year : List Char
  month : List Char
  day : List Char
  time : Option TimestampTime
  deriving DecidableEq, Repr

namespace Timestamp

/-- One or two digits and what follows them. -/
def shortNumber? (s : List Char) : Option (List Char × List Char) :=
  let digits := (s.take 2).takeWhile isDigit
  if digits.isEmpty then none else some (digits, s.drop digits.length)

/-- A number of digits and what follows them. -/
def exactNumber? (n : Nat) (s : List Char) : Option (List Char × List Char) :=
  let digits := (s.take n).takeWhile isDigit
  if digits.length = n then some (digits, s.drop n) else none

/-- What follows a character. -/
def behind? (c : Char) : List Char → Option (List Char)
  | d :: s => if d = c then some s else none
  | [] => none

/-- A zone that takes the rest of a text, blanks in front of it allowed. -/
def zone? (s : List Char) : Option (Option Zone) :=
  match s with
  | [] => some none
  | _ =>
    match s.dropWhile fun c => c = ' ' || c = '\t' with
    | ['Z'] => some (some .universal)
    | sign :: rest =>
      if sign = '+' || sign = '-' then do
        let (hours, rest) ← shortNumber? rest
        match rest with
        | [] => return some (.offset (sign = '-') hours [])
        | _ =>
          let (minutes, rest) ← (behind? ':' rest).bind (exactNumber? 2)
          if rest.isEmpty then return some (.offset (sign = '-') hours minutes) else none
      else none
    | [] => none

/-- A time of day that takes the rest of a text. -/
def time? (s : List Char) : Option TimestampTime := do
  let (hour, s) ← shortNumber? s
  let (minute, s) ← (behind? ':' s).bind (exactNumber? 2)
  let (second, s) ← (behind? ':' s).bind (exactNumber? 2)
  let (fraction, s) := match s with
    | '.' :: t => (t.takeWhile isDigit, t.dropWhile isDigit)
    | t => ([], t)
  let zone ← zone? s
  return ⟨hour, minute, second, fraction, zone⟩

/-- A timestamp: a date, and behind a `T` or blanks a time of day. -/
def ofText? (s : List Char) : Option Timestamp := do
  let (year, s) ← exactNumber? 4 s
  let (month, s) ← (behind? '-' s).bind shortNumber?
  let (day, s) ← (behind? '-' s).bind shortNumber?
  match s with
  | [] => return ⟨year, month, day, none⟩
  | c :: rest =>
    if c = 'T' || c = 't' then return ⟨year, month, day, some (← time? rest)⟩
    else if c = ' ' || c = '\t' then
      return ⟨year, month, day, some (← time? (rest.dropWhile fun c => c = ' ' || c = '\t'))⟩
    else none

/-- Whether the form of a text alone says that it is a timestamp: a date by itself needs two digits
for the month and for the day. -/
def isPlain (s : List Char) : Bool :=
  match ofText? s with
  | some t => t.time.isSome || (t.month.length = 2 && t.day.length = 2)
  | none => false

end Timestamp

/-! ## The tag of a plain scalar -/

/-- The spellings of truth values. -/
def truthWords : List String :=
  ["yes", "Yes", "YES", "no", "No", "NO", "true", "True", "TRUE", "false", "False", "FALSE",
   "on", "On", "ON", "off", "Off", "OFF"]

/-- The spellings of null, besides the empty text. -/
def nullWords : List String := ["~", "null", "Null", "NULL"]

/-- The text without one line feed at its end. -/
def dropFinalBreak (s : List Char) : List Char :=
  if s.getLast? = some '\n' then s.dropLast else s

/-- The tag that the form of a text gives a plain scalar. -/
def Tag.ofPlain (text : List Char) : Tag :=
  let s := dropFinalBreak text
  let word := String.ofList s
  if truthWords.contains word then .bool
  else if isFloat s then .float
  else if isInteger (splitSign s).2 then .int
  else if s = ['<', '<'] then .merge
  else if text.isEmpty || nullWords.contains word then .null
  else if Timestamp.isPlain s then .timestamp
  else if s = ['='] then .value
  else .str

end RoleGrants.Yaml
