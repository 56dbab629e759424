import RoleGrants.Number.Binary64

/-!
# Plain data

Manifests, log fields and the answers of scripted services are plain data: nulls, booleans,
numbers, texts, arrays, and objects whose entries keep their order. Integers are exact and differ
from floating-point numbers of the same value.
-/

namespace RoleGrants

open RoleGrants.Number

/-- A plain datum. -/
inductive Json where
  | null
  | bool (b : Bool)
  | int (n : Int)
  | float (x : Binary64)
  | text (s : String)
  | array (items : List Json)
  | object (entries : List (String × Json))
  deriving Repr, Inhabited

namespace Json

/-- The entry of a key in a list of entries. -/
def find? (key : String) : List (String × Json) → Option Json
  | [] => none
  | (k, v) :: rest => if k = key then some v else find? key rest

/-- The entry of a key, if the datum is an object that has it. -/
def get? (key : String) : Json → Option Json
  | .object entries => find? key entries
  | _ => none

@[simp] theorem get?_object (key : String) (entries : List (String × Json)) :
    get? key (.object entries) = find? key entries := rfl

/-- Puts a value under a key: a present key keeps its place, a new one goes to the end. -/
def put (key : String) (value : Json) : List (String × Json) → List (String × Json)
  | [] => [(key, value)]
  | (k, v) :: rest => if k = key then (key, value) :: rest else (k, v) :: put key value rest

/-- The value written is found under its key. -/
theorem find?_put (key : String) (value : Json) (entries : List (String × Json)) :
    find? key (put key value entries) = some value := by
  induction entries with
  | nil => simp [put, find?]
  | cons e rest ih =>
    by_cases h : e.1 = key <;> simp [put, find?, h, ih]

/-- Other keys keep their values. -/
theorem find?_put_of_ne {key other : String} (h : other ≠ key) (value : Json)
    (entries : List (String × Json)) :
    find? other (put key value entries) = find? other entries := by
  induction entries with
  | nil => simp [put, find?, Ne.symm h]
  | cons e rest ih =>
    by_cases hk : e.1 = key
    · simp [put, find?, hk, Ne.symm h]
    · rw [put, if_neg hk, find?, find?, ih]

/-- A natural number as a datum. -/
def nat (n : Nat) : Json := .int n

/-- A text that may be absent. -/
def text? : Option String → Json
  | some s => .text s
  | none => .null

/-- Whether a datum counts as absent where a check only asks for something: null, false, zero and
everything empty do. -/
def isBlank : Json → Bool
  | .null => true
  | .bool b => !b
  | .int n => n == 0
  | .float x => x.isZero
  | .text s => s.isEmpty
  | .array items => items.isEmpty
  | .object entries => entries.isEmpty

end Json

end RoleGrants
