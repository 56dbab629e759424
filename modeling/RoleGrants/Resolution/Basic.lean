import RoleGrants.Audit
import RoleGrants.Directory.Basic
import RoleGrants.Resolution.Error
import RoleGrants.Resolution.Event
import RoleGrants.Trace.Span

/-!
# Resolving definitions

A definition is resolved from the top down: bindings in order, and in each binding its subjects, its
cluster-wide grants, and its grants in namespaces. Every service account subject becomes a service
account, every cluster-wide grant a cluster-wide role binding, and every grant in namespaces one
role binding in each of its namespaces.

It is all or nothing: the first thing that cannot be resolved ends the resolution without a result.
What happened on the way, events and queries and what the directory logged, is kept in a trail that
an error does not undo. Events are told while the resolution goes on, and also gathered for the
result. The trail has room, too, for what is told of a resolution as a whole.
-/

namespace RoleGrants

open RoleGrants.Schema

/-- Something that happened during a resolution. -/
inductive Step where
  /-- An event was told to whoever follows the resolution. -/
  | event (e : Event)
  /-- The directory was asked. -/
  | query (s : Selector)
  /-- The directory logged something. -/
  | log (r : LogRecord)
  /-- Something was done to the span of the resolution. -/
  | span (m : SpanMark)
  /-- An audit event was logged. -/
  | audit (e : AuditEvent)
  deriving Repr

/-- The state of a directory, everything that happened so far, and the events gathered for the
result; of both the last thing first. -/
structure Trail (σ : Type) where
  directory : σ
  steps : List Step
  gathered : List Event
  deriving Repr

/-- A part of a resolution. -/
abbrev Resolving (σ : Type) := ExceptT ResolutionError (StateM (Trail σ))

/-- The objects produced so far. -/
structure Produced where
  serviceAccounts : List ServiceAccount
  roleBindings : List RoleBinding
  clusterRoleBindings : List ClusterRoleBinding
  deriving DecidableEq, Repr

namespace Produced

/-- Nothing. -/
def none : Produced := ⟨[], [], []⟩

/-- What two parts of a resolution produce together. -/
def append (p q : Produced) : Produced :=
  ⟨p.serviceAccounts ++ q.serviceAccounts, p.roleBindings ++ q.roleBindings,
    p.clusterRoleBindings ++ q.clusterRoleBindings⟩

/-- How many objects there are. -/
def total (p : Produced) : Nat :=
  p.serviceAccounts.length + p.roleBindings.length + p.clusterRoleBindings.length

end Produced

section

variable {σ : Type}

/-- Notes something that happened. -/
def note (step : Step) : Resolving σ Unit := modify fun t => { t with steps := step :: t.steps }

/-- Gathers an event for the result and tells it. -/
def emit (e : Event) : Resolving σ Unit := do
  modify fun t => { t with gathered := e :: t.gathered }
  note (.event e)

/-- Asks a directory for the namespaces of a selector. A failure that the directory does not report
as one of a lookup becomes one. -/
def lookUp (directory : Option (Directory σ)) (s : Selector) : Resolving σ (List Json) := do
  match directory with
  | none => throw (.lookup s.query "no namespace directory configured" none)
  | some ask =>
    note (.query s)
    let (reply, records, state) := ask s (← get).directory
    modify fun t => { t with directory := state }
    records.forM fun r => note (.log r)
    match reply with
    | .lookupFailed selector reason cause => throw (.lookup selector reason cause)
    | .failed f => throw (.lookup s.query f.reasonText (some f.kind))
    | .names answer =>
      match answer.members? with
      | some names => return names
      | none =>
        throw (.lookup s.query (Redaction.sanitize answer.notMembersMessage) (some "TypeError"))

/-- The namespace of an object whose namespace a directory gave. -/
def namespaceOf (answer : Json) : Except ResolutionError (Option String) :=
  match (optional text answer.toValue).under "namespace" with
  | .ok n => .ok n
  | .failed faults => .error (.badNamespace faults)

namespace Definition

variable (d : Definition) (b : Binding)

/-- The role that a grant names. -/
def roleRef (g : NamespaceGrant) : Except ResolutionError RoleRef :=
  match g.role, g.clusterRole with
  | some role, some clusterRole => .error (.binding d.name b.name (.twoRoles role clusterRole))
  | none, some clusterRole => .ok { kind := .clusterRole, name := clusterRole }
  | some role, none => .ok { kind := .role, name := role }
  | none, none => .error (.binding d.name b.name .noRole)

/-- The name of a role binding. A binding of a namespace's own role is named after the namespace it
lies in, so that it differs from those in other namespaces. -/
def roleBindingName (role : RoleRef) (namespaceText : String) : String :=
  match role.kind with
  | .clusterRole => d.nameStem b ++ "-" ++ role.name
  | .role => d.nameStem b ++ "-" ++ (role.name ++ "-" ++ namespaceText)

/-- The role binding of a grant in a namespace. -/
def roleBindingIn (role : RoleRef) (namespaceText : String) (namespaceName : Option String) :
    RoleBinding :=
  ⟨d.mark.stamp (d.roleBindingName b role namespaceText) namespaceName, role, b.subjects⟩

/-- The role binding of a grant in a namespace that a directory gave. -/
def roleBindingAt (role : RoleRef) (answer : Json) : Except ResolutionError RoleBinding :=
  (namespaceOf answer).map (d.roleBindingIn b role answer.plain)

/-- The service account that a subject asks for. -/
def accountOf (s : Subject) : Option ServiceAccount :=
  if s.kind = .serviceAccount then some ⟨d.mark.stamp s.name s.namespaceName⟩ else none

/-- The cluster-wide role binding of a grant. -/
def clusterBindingOf (g : ClusterGrant) : ClusterRoleBinding :=
  ⟨d.mark.stamp (d.nameStem b ++ "-" ++ g.clusterRole) none,
    { kind := .clusterRole, name := g.clusterRole }, b.subjects⟩

/-- Resolves a grant in namespaces. A selector that is set takes precedence over a namespace. -/
def resolveGrant (directory : Option (Directory σ)) (g : NamespaceGrant) :
    Resolving σ (List RoleBinding) := do
  let role ← liftExcept (d.roleRef b g)
  match g.activeSelector, g.namespaceName with
  | some s, ignored =>
    match ignored with
    | some n => emit (.namespaceIgnored b.name n)
    | none => pure ()
    let names ← lookUp directory s
    let produced ← liftExcept (names.mapM (d.roleBindingAt b role))
    emit (.selectorResolved b.name role s.query names)
    return produced
  | none, some n =>
    emit (.grantResolved b.name role n)
    return [d.roleBindingIn b role n (some n)]
  | none, none => throw (.binding d.name b.name .noTarget)
where
  /-- An outcome without effects, as a part of a resolution. -/
  liftExcept {α : Type} (e : Except ResolutionError α) : Resolving σ α :=
    match e with
    | .ok a => pure a
    | .error e => throw e

/-- Resolves grants in namespaces, one after the other. -/
def resolveGrants (directory : Option (Directory σ)) :
    List NamespaceGrant → Resolving σ (List RoleBinding)
  | [] => return []
  | g :: rest => do
    let first ← d.resolveGrant b directory g
    let more ← resolveGrants directory rest
    return first ++ more

/-- Resolves a binding. -/
def resolveBinding (directory : Option (Directory σ)) : Resolving σ Produced := do
  if b.subjects.isEmpty then throw (.binding d.name b.name .noSubjects)
  let roleBindings ← d.resolveGrants b directory b.namespaceGrants
  emit (.bindingResolved b.name b.subjects.length b.clusterGrants.length
    b.namespaceGrants.length)
  return ⟨b.subjects.filterMap d.accountOf, roleBindings,
    b.clusterGrants.map (d.clusterBindingOf b)⟩

/-- Resolves bindings, one after the other. -/
def resolveBindings (directory : Option (Directory σ)) : List Binding → Resolving σ Produced
  | [] => return .none
  | b :: rest => do
    let first ← d.resolveBinding b directory
    let more ← resolveBindings directory rest
    return first.append more

/-- Resolves all bindings of a definition. -/
def resolveAll (directory : Option (Directory σ)) : Resolving σ Produced := do
  if d.bindings.isEmpty then emit .noBindings
  d.resolveBindings directory d.bindings

/-- What became of a resolution: the objects or an error, what happened in order, and the state the
directory is left in. -/
structure Run (σ : Type) where
  result : Except ResolutionError Produced
  steps : List Step
  directory : σ

/-- Resolves a definition with a directory in some state. -/
def resolve (directory : Option (Directory σ)) (state : σ) : Run σ :=
  let (result, trail) := (d.resolveAll directory).run.run ⟨state, [], []⟩
  ⟨result, trail.steps.reverse, trail.directory⟩

/-- What a definition is resolved to: its name, the objects, and the events on the way. -/
structure Result where
  definition : String
  objects : Produced
  events : List Event
  deriving Repr

/-- The result of resolving a definition with a directory in some state, if there is one. -/
def resolved (directory : Option (Directory σ)) (state : σ) : Except ResolutionError Result :=
  let (result, trail) := (d.resolveAll directory).run.run ⟨state, [], []⟩
  result.map fun p => ⟨d.name, p, trail.gathered.reverse⟩

end Definition

namespace Definition.Run

/-- The events of a resolution. -/
def events (r : Definition.Run σ) : List Event :=
  r.steps.filterMap fun
    | .event e => some e
    | _ => none

/-- The queries of a resolution. -/
def queries (r : Definition.Run σ) : List Selector :=
  r.steps.filterMap fun
    | .query s => some s
    | _ => none

/-- What the directory logged during a resolution. -/
def directoryLog (r : Definition.Run σ) : List LogRecord :=
  r.steps.filterMap fun
    | .log l => some l
    | _ => none

/-- Everything that is logged during a resolution of a definition, events included. -/
def log (definition : String) (r : Definition.Run σ) : List LogRecord :=
  r.steps.filterMap fun
    | .event e => some (e.record definition)
    | .log l => some l
    | .query _ | .span _ | .audit _ => none

end Definition.Run

end

/-! ## Reports -/

/-- The files that objects are written to, in the order in which they should be applied. -/
def manifestFiles : List String :=
  ["serviceaccounts.yaml", "rolebindings.yaml", "clusterrolebindings.yaml"]

/-- The summary of what was produced for a definition. -/
def Produced.summary (definition : String) (p : Produced) : String :=
  let count := fun (n : Nat) => String.ofList (Number.decimal n)
  "\n".intercalate
    ["RBACDefinition " ++ definition ++ ":",
     "  ServiceAccounts: " ++ count p.serviceAccounts.length,
     "  RoleBindings: " ++ count p.roleBindings.length,
     "  ClusterRoleBindings: " ++ count p.clusterRoleBindings.length]

end RoleGrants
