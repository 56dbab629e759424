import RoleGrants.Redaction

/-!
# Failures of services

A failure of a service that is asked for something: its kind, its text, and the status and reason
that answers of the cluster carry. The text may hold request headers and bodies, so of a failure of
the cluster only status and reason are passed on.
-/

namespace RoleGrants

/-- A failure of a service. A status or a reason that is not given is null. -/
structure Failure where
  kind : String
  message : String
  status : Json
  reason : Json
  deriving Repr, Inhabited

namespace Failure

/-- The kind of failure that says that there is no usable configuration. -/
def configurationKind : String := "ConfigException"

/-- A failure by its kind alone. -/
def ofKind (kind : String) : Failure := ⟨kind, "", .null, .null⟩

/-- What is passed on of a failure of the cluster. -/
def clusterReason (f : Failure) : String :=
  match f.status, f.reason with
  | _, .null => f.kind
  | .null, reason => reason.plain
  | status, reason => reason.plain ++ " (HTTP " ++ status.plain ++ ")"

/-- What is passed on of any other failure: its text without credentials, or its kind. -/
def reasonText (f : Failure) : String :=
  Redaction.sanitize (if f.message.isEmpty then f.kind else f.message)

end Failure

end RoleGrants
