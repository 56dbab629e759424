import RoleGrants.Text.Similarity
import RoleGrants.Text.Blank

/-!
# Options among arguments

A command declares its options, each with the names it goes by. Among the arguments an option is
named in full behind two dashes, its value behind an equals sign or in the next argument, or by a
letter behind one dash. Letters may stand together, and what follows the letter of an option with a
value is its value. Two dashes alone end the options.

A command that is followed by another command's name stops at the first argument that is no option;
other commands go on behind it.
-/

namespace RoleGrants.CommandLine

open RoleGrants.Text

/-- A name of an option, and whether a value belongs to it. -/
structure OptionName (α : Type) where
  name : String
  option : α
  takesValue : Bool
  deriving Repr

/-- An option that was found, and its value; an option without one has an empty text. -/
structure Found (α : Type) where
  option : α
  value : String
  deriving DecidableEq, Repr

/-- What can be wrong with options. -/
inductive OptionProblem where
  /-- No option has the name; the names that are like it. -/
  | unknown (name : String) (similar : List String)
  | missingValue (name : String)
  | unwantedValue (name : String)
  deriving DecidableEq, Repr

section

variable {α : Type}

/-- What is found in one argument, and whether the next one is used up as a value. -/
abbrev Reading (α : Type) := Except OptionProblem (List (Found α) × Bool)

/-- Looks a name up. -/
def findName (names : List (OptionName α)) (name : String) : Option (OptionName α) :=
  names.find? fun n => n.name == name

/-- The option of a name that takes a value, with the next argument as its value. -/
def withNext (n : OptionName α) : Option String → Reading α
  | some value => .ok ([⟨n.option, value⟩], true)
  | none => .error (.missingValue n.name)

/-- Reads letters behind one dash. -/
def readLetters (names : List (OptionName α)) (next : Option String) : List Char → Reading α
  | [] => .ok ([], false)
  | c :: rest =>
    match findName names (String.ofList ['-', c]) with
    | none => .error (.unknown (String.ofList ['-', c]) [])
    | some n =>
      if n.takesValue then
        if rest.isEmpty then withNext n next else .ok ([⟨n.option, String.ofList rest⟩], false)
      else (readLetters names next rest).map fun found => (⟨n.option, ""⟩ :: found.1, found.2)

/-- Whether a name is written behind two dashes. -/
def isLong (name : List Char) : Bool := name.take 2 = ['-', '-']

/-- The full names among the names of options. -/
def longNames (names : List (OptionName α)) : List String :=
  (names.map (·.name)).filter fun n => isLong n.toList

/-- Reads an argument that begins with a dash, the next argument at hand. -/
def readOption (names : List (OptionName α)) (argument : List Char) (next : Option String) :
    Reading α :=
  let name := argument.takeWhile (· ≠ '=')
  let value := argument.drop (name.length + 1)
  let hasValue := name.length < argument.length
  if isLong argument then
    match findName names (String.ofList name) with
    | none =>
      .error (.unknown (String.ofList name) (similarTexts (String.ofList name) (longNames names)))
    | some n =>
      if n.takesValue then
        if hasValue then .ok ([⟨n.option, String.ofList value⟩], false) else withNext n next
      else if hasValue then .error (.unwantedValue n.name)
      else .ok ([⟨n.option, ""⟩], false)
  else readLetters names next (argument.drop 1)

/-- Whether an argument is read as an option. -/
def isOption (argument : List Char) : Bool := argument.head? = some '-' && 1 < argument.length

/-- What arguments hold: the options in order, and the other arguments. -/
structure Arguments (α : Type) where
  options : List (Found α)
  others : List String
  deriving Repr

/-- Reads arguments. `goesOn` says whether options may follow other arguments. -/
def readArguments (names : List (OptionName α)) (goesOn : Bool) :
    List String → Except OptionProblem (Arguments α)
  | [] => .ok ⟨[], []⟩
  | [argument] =>
    if argument = "--" then .ok ⟨[], []⟩
    else if isOption argument.toList then
      (readOption names argument.toList none).map fun found => ⟨found.1, []⟩
    else .ok ⟨[], [argument]⟩
  | argument :: next :: rest =>
    if argument = "--" then .ok ⟨[], next :: rest⟩
    else if isOption argument.toList then do
      let found ← readOption names argument.toList (some next)
      let more ← if found.2 then readArguments names goesOn rest
        else readArguments names goesOn (next :: rest)
      return ⟨found.1 ++ more.options, more.others⟩
    else if goesOn then do
      let more ← readArguments names goesOn (next :: rest)
      return ⟨more.options, argument :: more.others⟩
    else .ok ⟨[], argument :: next :: rest⟩

/-- The value of the last of some options that were found. -/
def lastValue? (options : List (Found α)) (p : α → Bool) : Option String :=
  ((options.filter fun f => p f.option).getLast?).map (·.value)

/-- The option of the last of some options that were found. -/
def lastOption? (options : List (Found α)) (p : α → Bool) : Option α :=
  ((options.filter fun f => p f.option).getLast?).map (·.option)

end

end RoleGrants.CommandLine
