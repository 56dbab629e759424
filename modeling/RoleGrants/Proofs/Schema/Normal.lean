import RoleGrants.Schema.Check

/-!
# Normal forms of documents

A document may spell a field in two ways, leave out what has a default, and give an empty text for
nothing.  Its normal form says the same in one way: every field in the order of the schema, under
its plain spelling, with its default where it was left out.

Normal forms are taken of plain data as they stand, whether or not a schema accepts them.  An entry
that belongs to no field is kept, at the end, so that nothing is lost but where it is said:
`Json.normalOpenRecord` drops what it does not know.
-/

namespace RoleGrants

open RoleGrants.Schema

/-- A field in normal forms. -/
structure NormalField where
  name : FieldName
  /-- What stands for the field where it is left out, unless it has to be there. -/
  default : Option Json
  /-- The normal form of its value. -/
  value : Json → Json

namespace NormalField

/-- The spellings of a field. -/
def spellings (f : NormalField) : List String := f.name.spelling :: f.name.plain.toList

/-- The plain spelling of a field. -/
def key (f : NormalField) : String := f.name.plain.getD f.name.spelling

/-- Whether an entry of a record gives a field. -/
def isGivenBy (f : NormalField) (e : String × Json) : Bool := f.spellings.contains e.1

/-- What a record says of a field: the entries that give it, or its default if there are none. -/
def taken (f : NormalField) (entries : List (String × Json)) : List (String × Json) :=
  match entries.filter f.isGivenBy with
  | [] => f.default.toList.map (f.key, ·)
  | given => given.map fun e => (f.key, f.value e.2)

end NormalField

namespace Json

/-- The normal form of a record: what it says of its fields, and its other entries as they are. -/
def normalRecord (fields : List NormalField) : Json → Json
  | .object entries =>
    .object (fields.flatMap (·.taken entries)
      ++ entries.filter fun e => !fields.any (·.isGivenBy e))
  | j => j

/-- The normal form of a record that drops its other entries. -/
def normalOpenRecord (fields : List NormalField) : Json → Json
  | .object entries => .object (fields.flatMap (·.taken entries))
  | j => j

/-- The normal form of a list. -/
def normalItems (item : Json → Json) : Json → Json
  | .array items => .array (items.map item)
  | j => j

/-- Nothing for an empty text. -/
def emptyAsNull : Json → Json
  | .text s => if s.isEmpty then .null else .text s
  | j => j

end Json

end RoleGrants
