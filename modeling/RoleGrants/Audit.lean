import RoleGrants.Schema.Moment
import RoleGrants.Log.Record

/-!
# Audit events

Every resolution leaves one audit event, which says what came of it and how many objects it
produced. Successes are logged as information and failures as errors.
-/

namespace RoleGrants

open RoleGrants.Schema RoleGrants.Calendar

/-- What came of a resolution. -/
inductive Outcome where
  | success
  | validationError
  | lookupError
  deriving DecidableEq, Repr

/-- The outcomes by the words for them. -/
def Outcome.words : List (String × Outcome) :=
  [("success", .success), ("validation_error", .validationError), ("lookup_error", .lookupError)]

/-- The word for an outcome. -/
def Outcome.word : Outcome → String
  | .success => "success"
  | .validationError => "validation_error"
  | .lookupError => "lookup_error"

/-- The record of a resolution. -/
structure AuditEvent where
  outcome : Outcome
  definition : String
  binding : Option String := none
  bindings : Nat := 0
  serviceAccounts : Nat := 0
  roleBindings : Nat := 0
  clusterRoleBindings : Nat := 0
  error : Option String := none
  traceId : Option String := none
  deriving DecidableEq, Repr

namespace AuditEvent

/-- The weight of an audit event. -/
def level (e : AuditEvent) : LogLevel := if e.outcome = .success then .info else .error

/-- The text of an audit event. -/
def message (e : AuditEvent) : String := "RBACDefinition resolution " ++ e.outcome.word

/-- An entry that is left out where there is nothing to say. -/
def entry? (key : String) : Option String → List (String × Json)
  | some s => if s.isEmpty then [] else [(key, .text s)]
  | none => []

/-- An audit event as plain data, without the time. -/
def dump (e : AuditEvent) : Json :=
  .object <| [("outcome", .text e.outcome.word), ("definition", .text e.definition),
    ("bindings", .nat e.bindings), ("service_accounts", .nat e.serviceAccounts),
    ("role_bindings", .nat e.roleBindings), ("cluster_role_bindings", .nat e.clusterRoleBindings),
    ("total_resources", .nat (e.serviceAccounts + e.roleBindings + e.clusterRoleBindings))]
    ++ entry? "binding" e.binding ++ entry? "error" e.error ++ entry? "trace_id" e.traceId

/-! ## Reading -/

/-- A field that counts something. -/
def countField (name : String) : Fields Nat := Fields.withDefault (.one name) 0 natural

/-- A field that holds a text or nothing. -/
def textField (name : String) : Fields (Option String) :=
  Fields.withDefault (.one name) none (optional text)

/-- The fields of an audit event behind its time. -/
def fieldsOf : Fields AuditEvent :=
  AuditEvent.mk <$> Fields.required (.one "outcome") (oneOf Outcome.words)
    <*> Fields.required (.one "definition") text
    <*> textField "binding" <*> countField "bindings" <*> countField "service_accounts"
    <*> countField "role_bindings" <*> countField "cluster_role_bindings" <*> textField "error"
    <*> textField "trace_id"

/-- Reads an audit event and its time. -/
def readTimed : Reader (Moment × AuditEvent) :=
  Fields.closed "ResolutionAuditEvent"
    (Prod.mk <$> Fields.required (.one "timestamp") Schema.moment <*> fieldsOf)

/-- Reads an audit event that is made now. -/
def read : Reader AuditEvent := Fields.closed "ResolutionAuditEvent" fieldsOf

end AuditEvent

end RoleGrants
