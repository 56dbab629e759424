import RoleGrants.Schema.Fault

/-!
# Why a definition is not resolved
-/

namespace RoleGrants

open RoleGrants.Schema

/-- What is wrong with a binding. -/
inductive BindingProblem where
  | noSubjects
  /-- A grant names a role of the namespace and a cluster-wide one. -/
  | twoRoles (role clusterRole : String)
  | noRole
  /-- A grant has neither a namespace nor a selector that is set. -/
  | noTarget
  deriving DecidableEq, Repr

/-- The wording of a problem. -/
def BindingProblem.wording : BindingProblem → String
  | .noSubjects => "No subjects specified"
  | .twoRoles role clusterRole =>
    "Invalid role binding, role '" ++ role ++ "' and clusterRole '" ++ clusterRole
      ++ "' are mutually exclusive"
  | .noRole => "Invalid role binding, role or clusterRole required"
  | .noTarget => "Invalid role binding, namespace or namespace selector required"

/-- The message on a binding of a definition. A binding that is not known or has no name is left
out. -/
def bindingMessage (definition : String) (binding : Option String) (reason : String) : String :=
  let location := match binding with
    | some b => if b.isEmpty then definition else definition ++ "-" ++ b
    | none => definition
  "Invalid RBAC binding '" ++ location ++ "': " ++ reason

/-- The message on a lookup of namespaces. A selector or a reason that is empty is left out. -/
def lookupMessage (selector reason : String) : String :=
  "Failed to list namespaces"
    ++ (if selector.isEmpty then "" else " matching '" ++ selector ++ "'")
    ++ (if reason.isEmpty then "" else ": " ++ reason)

/-- Why a definition is not resolved. -/
inductive ResolutionError where
  | binding (definition binding : String) (problem : BindingProblem)
  /-- The namespaces of a selector cannot be found, and the kind of failure behind it if there is
  one. -/
  | lookup (selector reason : String) (cause : Option String)
  /-- A directory gave a name that no object can be in. -/
  | badNamespace (faults : List Fault)
  deriving DecidableEq, Repr

namespace ResolutionError

/-- The message of an error. -/
def message : ResolutionError → String
  | .binding definition name problem => bindingMessage definition (some name) problem.wording
  | .lookup selector reason _ => lookupMessage selector reason
  | .badNamespace faults => report faults

/-- The name of an error's kind. -/
def kindName : ResolutionError → String
  | .binding _ _ _ => "DefinitionValidationError"
  | .lookup _ _ _ => "NamespaceLookupError"
  | .badNamespace _ => "ValidationError"

end ResolutionError

end RoleGrants
