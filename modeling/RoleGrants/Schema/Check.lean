import RoleGrants.Schema.Fault
import RoleGrants.Text.Utf8

/-!
# Readers that collect faults

A reader turns a document value into a typed one or lists everything that is wrong with it. Checks
of independent parts are put together applicatively, so that the faults of all parts are kept in
order; a rule over a whole record is only asked once all its fields are valid.

`Check.and_ok_iff` says that a combination is valid exactly when both parts are.
-/

namespace RoleGrants.Schema

open RoleGrants.Text RoleGrants.Number

/-- A valid value, or the faults found. -/
inductive Check (α : Type) where
  | ok (value : α)
  | failed (faults : List Fault)
  deriving Repr

namespace Check

variable {α β : Type}

/-- Applies a function to a valid value. -/
def map (f : α → β) : Check α → Check β
  | .ok a => .ok (f a)
  | .failed faults => .failed faults

/-- Applies a checked function to a checked value and keeps the faults of both. -/
def and : Check (α → β) → Check α → Check β
  | .ok f, .ok a => .ok (f a)
  | .ok _, .failed e => .failed e
  | .failed e, .ok _ => .failed e
  | .failed e, .failed e' => .failed (e ++ e')

instance : Functor Check where
  map := map

instance : Applicative Check where
  pure := .ok
  seq f a := and f (a ())

/-- A combination is valid exactly when both parts are. -/
theorem and_ok_iff (f : Check (α → β)) (a : Check α) (b : β) :
    and f a = .ok b ↔ ∃ g x, f = .ok g ∧ a = .ok x ∧ g x = b := by
  cases f <;> cases a <;> simp [and]

/-- A single fault at the place itself. -/
def problem (p : Problem) : Check α := .failed [⟨[], p⟩]

/-- The faults, seen from one level further up. -/
def under (part : String) : Check α → Check α
  | .ok a => .ok a
  | .failed faults => .failed (faults.map fun f => ⟨part :: f.path, f.problem⟩)

/-- Asks a rule of a valid value. -/
def obey (rule : α → Option Rule) : Check α → Check α
  | .ok a =>
    match rule a with
    | some broken => problem (.broken broken)
    | none => .ok a
  | .failed faults => .failed faults

/-- What is valid obeys the rule. -/
theorem obey_eq_ok {rule : α → Option Rule} {c : Check α} {a : α} (h : c.obey rule = .ok a) :
    rule a = none := by
  cases c with
  | failed => cases h
  | ok a' =>
    rw [obey] at h
    cases hrule : rule a' with
    | some broken => simp [hrule, problem] at h
    | none =>
      rw [hrule] at h
      cases h
      exact hrule

/-- Adds a requirement on a valid value. -/
def satisfy (holds : α → Bool) (otherwise : Problem) : Check α → Check α
  | .ok a => if holds a then .ok a else problem otherwise
  | .failed faults => .failed faults

theorem map_eq_ok {f : α → β} {c : Check α} {b : β} (h : c.map f = .ok b) :
    ∃ a, c = .ok a ∧ f a = b := by
  cases c with
  | failed => cases h
  | ok a => exact ⟨a, rfl, Check.ok.inj h⟩

theorem under_eq_ok {part : String} {c : Check α} {a : α} (h : c.under part = .ok a) :
    c = .ok a := by
  cases c with
  | failed => cases h
  | ok a' => exact h

/-- The result, if there are no faults. -/
def toExcept : Check α → Except (List Fault) α
  | .ok a => .ok a
  | .failed faults => .error faults

end Check

/-- A reader of values. -/
abbrev Reader (α : Type) := Value → Check α

/-! ## Scalars -/

/-- A text. Bytes are read as UTF-8. -/
def text : Reader String
  | .text s => .ok s
  | .bytes b =>
    match decodeUtf8 b with
    | .ok s => .ok (String.ofList s)
    | .error _ => .problem .notUnicode
  | _ => .problem .notText

/-- A text with at least one character. -/
def nonEmptyText : Reader String := fun v => (text v).satisfy (fun s => !s.isEmpty) .emptyText

/-- One of several texts, each with its meaning. -/
def oneOf {α : Type} (choices : List (String × α)) : Reader α
  | .text s =>
    match choices.find? fun c => c.1 == s with
    | some c => .ok c.2
    | none => .problem (.notOneOf (choices.map (·.1)))
  | _ => .problem (.notOneOf (choices.map (·.1)))

/-- The words for true and false. -/
def booleanWords : List (String × Bool) :=
  [("0", false), ("off", false), ("f", false), ("false", false), ("n", false), ("no", false),
   ("1", true), ("on", true), ("t", true), ("true", true), ("y", true), ("yes", true)]

/-- Whether an integer fits 64 signed bits. -/
def fitsWord (n : Int) : Bool := -(Nat.pow 2 63 : Int) ≤ n && n < (Nat.pow 2 63 : Int)

/-- A boolean: itself, zero or one, or one of the words for it in any ASCII case. -/
def boolean : Reader Bool
  | .bool b => .ok b
  | .int n =>
    if n = 0 then .ok false
    else if n = 1 then .ok true
    else .problem (if fitsWord n then .unreadableBoolean else .notBoolean)
  | .float x =>
    match x.toInt? with
    | some 0 => .ok false
    | some 1 => .ok true
    | some n => .problem (if fitsWord n then .unreadableBoolean else .notBoolean)
    | none => .problem .notBoolean
  | v =>
    match text v with
    | .ok s =>
      match booleanWords.find? fun w => w.1.toList == s.toList.map Char.toLower with
      | some w => .ok w.2
      | none => .problem .unreadableBoolean
    | .failed _ => .problem .notBoolean

/-! ## Collections -/

/-- The members of a list, each read, with the faults of a member under its position. -/
def members {α : Type} (r : Reader α) (position : Nat) : List Value → Check (List α)
  | [] => .ok []
  | v :: rest =>
    ((r v).under (String.ofList (decimal position)) |>.map List.cons).and
      (members r (position + 1) rest)

/-- A list; tuples and sets are taken too. -/
def listOf {α : Type} (r : Reader α) : Reader (List α) := fun v =>
  match v.items? with
  | some items => members r 0 items
  | none => .problem .notList

/-- A tuple; lists and sets are taken too. -/
def tupleOf {α : Type} (r : Reader α) : Reader (List α) := fun v =>
  match v.items? with
  | some items => members r 0 items
  | none => .problem .notTuple

/-- A tuple with at least one member. That none is valid is a fault of its own. -/
def someOf {α : Type} (r : Reader α) : Reader (List α) := fun v =>
  match v.items? with
  | none => .problem .notTuple
  | some items =>
    let isValid := fun v => match r v with
      | .ok _ => true
      | .failed _ => false
    if items.any isValid then members r 0 items
    else ((members r 0 items).map fun xs _ => xs).and (.problem (α := Unit) .emptyTuple)

/-- The text of a key inside a path: a number or a boolean as a numeral, a text as itself. -/
def keyText : Value → String
  | .text s => s
  | .bool b => if b then "1" else "0"
  | k =>
    if k.isWritable then String.ofList k.shown else "<unprintable " ++ k.kindName ++ " object>"

/-- Puts a text under a key: a present key keeps its place. -/
def putText (key value : String) : List (String × String) → List (String × String)
  | [] => [(key, value)]
  | (k, v) :: rest => if k = key then (k, value) :: rest else (k, v) :: putText key value rest

/-- The entries of a map from texts to texts, each checked. -/
def textEntries : List (Value × Value) → Check (List (String × String))
  | [] => .ok []
  | (k, v) :: rest =>
    let key := ((text k).under "[key]").under (keyText k)
    let value := (text v).under (keyText k)
    ((key.map fun key value more => (key, value) :: more).and value).and (textEntries rest)

/-- A map from texts to texts. -/
def textMap : Reader (List (String × String)) := fun v =>
  match v.entries? with
  | some entries =>
    (textEntries entries).map fun pairs => pairs.foldl (fun m p => putText p.1 p.2 m) []
  | none => .problem .notMapping

/-- Null, or what another reader reads. -/
def optional {α : Type} (r : Reader α) : Reader (Option α)
  | .null => .ok none
  | v => (r v).map some

/-! ## Records -/

/-- The spellings of a field: the one documents use, and the plain one if that differs. -/
structure FieldName where
  spelling : String
  plain : Option String
  deriving DecidableEq, Repr

/-- A field with one spelling. -/
def FieldName.one (spelling : String) : FieldName := ⟨spelling, none⟩

/-- The spelling in which a field occurs, the documents' one first, and its value. -/
def FieldName.find? (name : FieldName) (entries : List (Value × Value)) : Option (String × Value) :=
  match Value.findText? name.spelling entries with
  | some v => some (name.spelling, v)
  | none => name.plain.bind fun plain => (Value.findText? plain entries).map (plain, ·)

/-- A reader of some fields of a record, with the names it looks for. -/
structure Fields (α : Type) where
  names : List FieldName
  read : List (Value × Value) → Check α

namespace Fields

variable {α β : Type}

instance : Functor Fields where
  map f r := ⟨r.names, fun entries => (r.read entries).map f⟩

instance : Applicative Fields where
  pure a := ⟨[], fun _ => .ok a⟩
  seq f r := ⟨f.names ++ (r ()).names, fun entries => (f.read entries).and ((r ()).read entries)⟩

/-- A field that has to be there. -/
def required (name : FieldName) (r : Reader α) : Fields α :=
  ⟨[name], fun entries =>
    match name.find? entries with
    | some (spelling, v) => (r v).under spelling
    | none => (Check.problem .required).under name.spelling⟩

/-- A field with a default. -/
def withDefault (name : FieldName) (default : α) (r : Reader α) : Fields α :=
  ⟨[name], fun entries =>
    match name.find? entries with
    | some (spelling, v) => (r v).under spelling
    | none => .ok default⟩

/-- The spellings that are taken from a record. -/
def spellings (names : List FieldName) (entries : List (Value × Value)) : List String :=
  names.filterMap fun name => (name.find? entries).map (·.1)

/-- The faults of entries that no field takes. -/
def unknown (taken : List String) : List (Value × Value) → List Fault
  | [] => []
  | (.text k, _) :: rest =>
    if taken.contains k then unknown taken rest else ⟨[k], .unknownField⟩ :: unknown taken rest
  | (k, _) :: rest => ⟨[keyText k], .fieldNotText⟩ :: unknown taken rest

/-- A record that has no other fields. -/
def closed (kind : String) (r : Fields α) : Reader α := fun v =>
  match v.entries? with
  | none => .problem (.notRecord kind)
  | some entries =>
    match unknown (spellings r.names entries) entries with
    | [] => r.read entries
    | faults => ((r.read entries).map fun a _ => a).and (.failed (α := Unit) faults)

/-- A record that may have other fields, which are ignored. -/
def opened (kind : String) (r : Fields α) : Reader α := fun v =>
  match v.entries? with
  | none => .problem (.notRecord kind)
  | some entries => r.read entries

end Fields

end RoleGrants.Schema
