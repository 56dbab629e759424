import RoleGrants.Failure
import RoleGrants.Log.Record
import RoleGrants.Selector.Query

/-!
# Namespace directories

A directory is asked with a selector for the names of the namespaces it selects. It may keep a
state, and what it answers may be any data, for directories are brought along by callers. Two kinds
are provided, a fixed table and a live cluster.
-/

namespace RoleGrants

/-- What a directory gives back. -/
inductive Reply where
  /-- Names, or what the directory takes for names. -/
  | names (answer : Json)
  /-- The directory says itself that the lookup failed, and what made it fail if it knows. -/
  | lookupFailed (selector reason : String) (cause : Option String)
  /-- The directory fails in another way. -/
  | failed (failure : Failure)
  deriving Repr, Inhabited

/-- What a directory with states `σ` does when it is asked: it replies, logs, and may change. -/
abbrev Directory (σ : Type) := Selector → σ → Reply × List LogRecord × σ

/-- The members of an answer: those of a list, the keys of an object, the characters of a text. -/
def Json.members? : Json → Option (List Json)
  | .array items => some items
  | .object entries => some (entries.map fun e => .text e.1)
  | .text s => some (s.toList.map fun c => .text (String.ofList [c]))
  | _ => none

/-- What is said about an answer that has no members. -/
def Json.notMembersMessage (j : Json) : String :=
  "'" ++ j.toValue.kindName ++ "' object is not iterable"

end RoleGrants
