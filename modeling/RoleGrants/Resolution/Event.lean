import RoleGrants.Log.Record
import RoleGrants.Resource.Basic

/-!
# Events of a resolution

What a resolution tells while it goes on. Events describe progress; nothing depends on them.
-/

namespace RoleGrants

/-- An event of a resolution. -/
inductive Event where
  /-- The definition has no bindings. -/
  | noBindings
  /-- A selector takes the place of the namespace a grant names. -/
  | namespaceIgnored (binding namespaceName : String)
  /-- A grant was made in the namespaces of a selector. -/
  | selectorResolved (binding : String) (role : RoleRef) (query : String) (namespaces : List Json)
  /-- A grant was made in the namespace it names. -/
  | grantResolved (binding : String) (role : RoleRef) (namespaceName : String)
  /-- All grants of a binding were made. -/
  | bindingResolved (binding : String) (subjects clusterGrants namespaceGrants : Nat)
  deriving Repr

namespace Event

/-- The weight of an event. -/
def level : Event → LogLevel
  | .noBindings | .namespaceIgnored _ _ => .warning
  | _ => .debug

/-- The name of an event. -/
def name : Event → String
  | .noBindings => "resolver.no_bindings"
  | .namespaceIgnored _ _ => "resolver.namespace_ignored"
  | .selectorResolved _ _ _ _ => "resolver.role_binding_selector_resolved"
  | .grantResolved _ _ _ => "resolver.role_binding_resolved"
  | .bindingResolved _ _ _ _ => "resolver.binding_resolved"

/-- The circumstances of an event, apart from the definition. -/
def details : Event → List (String × LogField)
  | .noBindings => []
  | .namespaceIgnored binding namespaceName =>
    [("binding", .text binding), ("namespace", .text namespaceName),
     ("reason", .text "namespaceSelector takes precedence over namespace")]
  | .selectorResolved binding role query namespaces =>
    [("binding", .text binding), ("role_kind", .text role.kind.word), ("role", .text role.name),
     ("label_selector", .text query), ("namespaces", .group namespaces)]
  | .grantResolved binding role namespaceName =>
    [("binding", .text binding), ("role_kind", .text role.kind.word), ("role", .text role.name),
     ("namespace", .text namespaceName)]
  | .bindingResolved binding subjects clusterGrants namespaceGrants =>
    [("binding", .text binding), ("subjects", .nat subjects),
     ("cluster_role_bindings", .nat clusterGrants), ("role_binding_specs", .nat namespaceGrants)]

/-- The circumstances of an event. -/
def fields (definition : String) (e : Event) : List (String × LogField) :=
  ("definition", .text definition) :: e.details

/-- An event as a log record. -/
def record (definition : String) (e : Event) : LogRecord := ⟨e.level, e.name, e.fields definition⟩

end Event

end RoleGrants
