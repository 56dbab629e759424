import RoleGrants.Yaml.Fault

/-!
# Tokens

The units of a YAML text. Indentation is made explicit: a block collection is opened by a token of
its own and closed by `blockEnd`. A text that stops making sense ends in `broken`.
-/

namespace RoleGrants.Yaml

/-- A unit of a YAML text. -/
inductive Token where
  /-- A version directive. -/
  | version (major minor : Nat)
  /-- A directive that says what a tag handle stands for. -/
  | tagHandle (handle expansion : List Char)
  /-- A directive without meaning. -/
  | ignoredDirective
  | documentStart
  | documentEnd
  | blockSequenceStart
  | blockMappingStart
  | blockEnd
  | flowSequenceStart
  | flowSequenceEnd
  | flowMappingStart
  | flowMappingEnd
  | flowEntry
  | blockEntry
  | key
  | value
  | alias (name : List Char)
  | anchor (name : List Char)
  | tag (handle : Option (List Char)) (suffix : List Char)
  | scalar (text : List Char) (plain : Bool)
  | streamEnd
  /-- The text cannot be read beyond this point. -/
  | broken (fault : Fault)
  deriving DecidableEq, Repr

end RoleGrants.Yaml
