import RoleGrants.Json
import RoleGrants.Number.Shortest
import RoleGrants.Calendar.Moment
import RoleGrants.Text.Quoted

/-!
# Document values

What a document can hold. Besides plain data a document has bytes, dates, moments, pairs and sets,
maps whose keys are any scalar, and collections that contain themselves.

A collection that contains itself is a finite tree: where it recurs stands `enclosing`, with the
number of collections between that place and the one meant. `items` and `entries` look one level
into a value and put the collection itself where its parts refer to it, so a reader that goes down
level by level never meets a reference.

A value has two texts. `shown` is unambiguous, with quoted text inside; `plain` shows a text as
itself and everything else as `shown` does, apart from dates and moments. Two things are left out of
both: a set is shown in the order of its document, and of a collection that contains itself they show
as much as the finite tree says, which may end a level away from where the part that is shown recurs.
-/

namespace RoleGrants

open RoleGrants.Text RoleGrants.Number RoleGrants.Calendar

/-- A document value. -/
inductive Value where
  | null
  | bool (b : Bool)
  | int (n : Int)
  | float (x : Binary64)
  | text (s : String)
  | bytes (b : List UInt8)
  | date (d : Date)
  | moment (m : Moment)
  | list (items : List Value)
  | tuple (items : List Value)
  | set (items : List Value)
  | map (entries : List (Value × Value))
  /-- The collection that lies the given number of levels above the one this stands in. -/
  | enclosing (mapping : Bool) (levels : Nat)
  deriving Repr, Inhabited

mutual

/-- A plain datum as a document value. -/
def Json.toValue : Json → Value
  | .null => .null
  | .bool b => .bool b
  | .int n => .int n
  | .float x => .float x
  | .text s => .text s
  | .array items => .list (Json.toValues items)
  | .object entries => .map (Json.toEntries entries)

/-- Plain data as document values. -/
def Json.toValues : List Json → List Value
  | [] => []
  | item :: rest => item.toValue :: Json.toValues rest

/-- The entries of an object as entries of a map. -/
def Json.toEntries : List (String × Json) → List (Value × Value)
  | [] => []
  | (key, value) :: rest => (.text key, value.toValue) :: Json.toEntries rest

end

namespace Value

/-! ## Kinds -/

/-- The name of a value's kind, as messages give it. -/
def kindName : Value → String
  | .null => "NoneType"
  | .bool _ => "bool"
  | .int _ => "int"
  | .float _ => "float"
  | .text _ => "str"
  | .bytes _ => "bytes"
  | .date _ => "date"
  | .moment _ => "datetime"
  | .list _ => "list"
  | .tuple _ => "tuple"
  | .set _ => "set"
  | .map _ => "dict"
  | .enclosing mapping _ => if mapping then "dict" else "list"

/-- Whether a value counts as absent: null, false, zero and everything empty do. -/
def isBlank : Value → Bool
  | .null => true
  | .bool b => !b
  | .int n => n == 0
  | .float x => x.isZero
  | .text s => s.isEmpty
  | .bytes b => b.isEmpty
  | .list items => items.isEmpty
  | .tuple items => items.isEmpty
  | .set items => items.isEmpty
  | .map entries => entries.isEmpty
  | _ => false

/-! ## Looking one level down -/

mutual

/-- Puts a collection where a value refers to it from a number of levels below. -/
def plug (whole : Value) (depth : Nat) : Value → Value
  | .enclosing mapping levels => if levels = depth then whole else .enclosing mapping levels
  | .list items => .list (plugItems whole (depth + 1) items)
  | .tuple items => .tuple (plugItems whole (depth + 1) items)
  | .map entries => .map (plugEntries whole (depth + 1) entries)
  | v => v

/-- `plug` on each of several values. -/
def plugItems (whole : Value) (depth : Nat) : List Value → List Value
  | [] => []
  | v :: rest => plug whole depth v :: plugItems whole depth rest

/-- `plug` on the values of entries. Keys hold no collections. -/
def plugEntries (whole : Value) (depth : Nat) : List (Value × Value) → List (Value × Value)
  | [] => []
  | (k, v) :: rest => (k, plug whole depth v) :: plugEntries whole depth rest

end

/-- The members of a list, a tuple or a set. -/
def items? : Value → Option (List Value)
  | .list items => some (plugItems (.list items) 0 items)
  | .tuple items => some items
  | .set items => some items
  | _ => none

/-- The entries of a map. -/
def entries? : Value → Option (List (Value × Value))
  | .map entries => some (plugEntries (.map entries) 0 entries)
  | _ => none

/-! ## Keys -/

/-- The number that a boolean or a number is. -/
def number? : Value → Option Binary64
  | .bool b => some (.ofInt (if b then 1 else 0))
  | .int n => some (.ofInt n)
  | .float x => some x
  | _ => none

/-- The integer that a boolean or a number is. -/
def integer? : Value → Option Int
  | .bool b => some (if b then 1 else 0)
  | .int n => some n
  | .float x => x.toInt?
  | _ => none

/-- Whether two scalars are the same key. Numbers and booleans are compared by their value, and
moments as instants. -/
def sameKey : Value → Value → Bool
  | .null, .null => true
  | .text a, .text b => a == b
  | .bytes a, .bytes b => a == b
  | .date a, .date b => a == b
  | .moment a, .moment b => a.isSame b
  | .float x, .float y => x.sameNumber y
  | a, b =>
    match a.integer?, b.integer? with
    | some m, some n => m == n
    | _, _ => false

/-- Puts a value under a key: a present key stays as it is and keeps its place, a new one goes to
the end. -/
def putEntry (key value : Value) : List (Value × Value) → List (Value × Value)
  | [] => [(key, value)]
  | (k, v) :: rest =>
    if k.sameKey key then (k, value) :: rest else (k, v) :: putEntry key value rest

/-- The entry under a text key. -/
def findText? (key : String) : List (Value × Value) → Option Value
  | [] => none
  | (.text k, v) :: rest => if k = key then some v else findText? key rest
  | _ :: rest => findText? key rest

/-! ## Texts -/

mutual

/-- The unambiguous text of a value. -/
def shown : Value → List Char
  | .null => "None".toList
  | .bool b => (if b then "True" else "False").toList
  | .int n => decimalInt n
  | .float x => Binary64.numeral Binary64.messageNumerals x
  | .text s => quoted s.toList
  | .bytes b => quotedBytes b
  | .date d => d.call.toList
  | .moment m => m.call.toList
  | .list items => '[' :: joinWith [',', ' '] (shownItems items) ++ [']']
  | .tuple items =>
    '(' :: joinWith [',', ' '] (shownItems items)
      ++ (if items.length = 1 then [',', ')'] else [')'])
  | .set items =>
    if items.isEmpty then "set()".toList
    else '\x7b' :: joinWith [',', ' '] (shownItems items) ++ ['\x7d']
  | .map entries => '\x7b' :: joinWith [',', ' '] (shownEntries entries) ++ ['\x7d']
  | .enclosing mapping _ =>
    if mapping then ['\x7b', '.', '.', '.', '\x7d'] else ['[', '.', '.', '.', ']']

/-- The texts of several values. -/
def shownItems : List Value → List (List Char)
  | [] => []
  | v :: rest => v.shown :: shownItems rest

/-- The texts of entries. -/
def shownEntries : List (Value × Value) → List (List Char)
  | [] => []
  | (k, v) :: rest => (k.shown ++ ':' :: ' ' :: v.shown) :: shownEntries rest

end

/-- The text of a value, in which a text stands for itself. -/
def plain : Value → String
  | .text s => s
  | .date d => String.ofList d.text
  | .moment m => String.ofList m.text
  | v => String.ofList v.shown

mutual

/-- Whether a value can be written out: no integer in it has more digits than numerals may have. -/
def isWritable : Value → Bool
  | .int n => (decimal n.natAbs).length ≤ maxDigits
  | .list items => areWritable items
  | .tuple items => areWritable items
  | .set items => areWritable items
  | .map entries => entriesWritable entries
  | _ => true

/-- Whether several values can be written out. -/
def areWritable : List Value → Bool
  | [] => true
  | v :: rest => v.isWritable && areWritable rest

/-- Whether entries can be written out, keys and values. -/
def entriesWritable : List (Value × Value) → Bool
  | [] => true
  | (k, v) :: rest => (k.isWritable && v.isWritable) && entriesWritable rest

end

end Value

/-- The unambiguous text of a plain datum. -/
def Json.shown (j : Json) : String := String.ofList j.toValue.shown

/-- The text of a plain datum, in which a text stands for itself. -/
def Json.plain (j : Json) : String := j.toValue.plain

end RoleGrants
