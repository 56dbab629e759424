import RoleGrants.Resolution.Basic
import RoleGrants.Trace.Context

/-!
# Traced resolutions

A resolution runs inside a span, which records what was resolved and what came of it, and it leaves
one audit event. An error reaches both only as text without credentials. A directory that breaks its
contract by naming a namespace that cannot be one leaves the span unmarked and no audit event.
-/

namespace RoleGrants

section

variable {σ : Type}

/-- Does something to the span. -/
def markSpan (m : SpanMark) : Resolving σ Unit := note (.span m)

/-- Does something inside a span, which ends whatever comes of it. -/
def inSpan {α : Type} (attributes : List (String × Json)) (body : Resolving σ α) :
    Resolving σ α := do
  markSpan (.begun attributes)
  let a ← tryCatch body fun e => do
    markSpan .ended
    throw e
  markSpan .ended
  return a

/-- The text of an error that may be shown. -/
def shownError (e : ResolutionError) : String := Redaction.sanitize e.message

/-- What a failure leaves on the span. -/
def failureMarks (e : ResolutionError) : List SpanMark :=
  [.attribute "rbac.success" (.bool false), .failed (shownError e),
    .attribute "exception.type" (.text e.kindName),
    .attribute "exception.message" (.text (shownError e))]

/-- What a success leaves on the span. -/
def successMarks (p : Produced) : List SpanMark :=
  [.attribute "rbac.success" (.bool true),
    .attribute "rbac.service_accounts_count" (.nat p.serviceAccounts.length),
    .attribute "rbac.role_bindings_count" (.nat p.roleBindings.length),
    .attribute "rbac.cluster_role_bindings_count" (.nat p.clusterRoleBindings.length)]

namespace Definition

variable (d : Definition) (c : SpanContext)

/-- The name of the span of a resolution. -/
def spanName : String := "rbac_manager.resolve"

/-- The attributes with which the span of a resolution begins. -/
def spanAttributes : List (String × Json) :=
  [("rbac.definition", .text d.name), ("rbac.bindings_count", .nat d.bindings.length)]

/-- The audit event of a resolution that succeeded. -/
def successEvent (p : Produced) : AuditEvent where
  outcome := .success
  definition := d.name
  bindings := d.bindings.length
  serviceAccounts := p.serviceAccounts.length
  roleBindings := p.roleBindings.length
  clusterRoleBindings := p.clusterRoleBindings.length
  traceId := c.traceId?

/-- The audit event of a resolution that failed. -/
def failureEvent (outcome : Outcome) (binding : Option String) (e : ResolutionError) :
    AuditEvent where
  outcome := outcome
  definition := d.name
  binding := binding
  bindings := d.bindings.length
  error := some (shownError e)
  traceId := c.traceId?

/-- Tells that a resolution succeeded. -/
def tellSuccess (p : Produced) : Resolving σ Unit := do
  (successMarks p).forM markSpan
  note (.audit (d.successEvent c p))

/-- Tells that a resolution failed, if it did so with one of the errors that callers are told of. -/
def tellFailure (e : ResolutionError) : Resolving σ Unit :=
  match e with
  | .binding _ binding _ => do
    (failureMarks e).forM markSpan
    note (.audit (d.failureEvent c .validationError (some binding) e))
  | .lookup _ _ _ => do
    (failureMarks e).forM markSpan
    note (.audit (d.failureEvent c .lookupError none e))
  | .badNamespace _ => pure ()

/-- Resolves all bindings of a definition inside a span, and tells what came of it. -/
def resolveInSpan (directory : Option (Directory σ)) : Resolving σ Produced :=
  inSpan d.spanAttributes do
    let p ← tryCatch (d.resolveAll directory) fun e => do
      d.tellFailure c e
      throw e
    d.tellSuccess c p
    return p

/-- Resolves a definition with a directory in some state, inside a span with a context. -/
def traced (directory : Option (Directory σ)) (state : σ) : Run σ :=
  let (result, trail) := (d.resolveInSpan c directory).run.run ⟨state, [], []⟩
  ⟨result, trail.steps.reverse, trail.directory⟩

end Definition

namespace Definition.Run

/-- The audit events of a resolution. -/
def audits (r : Definition.Run σ) : List AuditEvent :=
  r.steps.filterMap fun
    | .audit e => some e
    | _ => none

/-- The spans of a resolution. -/
def spans (r : Definition.Run σ) : List SpanRecord :=
  SpanRecord.ofMarks <| r.steps.filterMap fun
    | .span m => some m
    | _ => none

end Definition.Run

end

end RoleGrants
