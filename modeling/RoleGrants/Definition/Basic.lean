import RoleGrants.Selector.Basic

/-!
# Definitions

A definition says who gets which roles where. It is a list of named bindings; a binding has
subjects, the identities it is about, and grants: roles that are granted cluster-wide, and roles
that are granted in a namespace or in all namespaces a selector picks.

What is kept here is what a document can say. Whether a binding makes sense, with at least one
subject and with one role and one target in each grant, is decided when it is resolved.
-/

namespace RoleGrants

/-- What kind of identity a subject is. -/
inductive SubjectKind where
  | serviceAccount
  | user
  | group
  deriving DecidableEq, Repr

/-- The subject kinds by the words for them. -/
def SubjectKind.words : List (String × SubjectKind) :=
  [("ServiceAccount", .serviceAccount), ("User", .user), ("Group", .group)]

/-- The word for a subject kind. -/
def SubjectKind.word : SubjectKind → String
  | .serviceAccount => "ServiceAccount"
  | .user => "User"
  | .group => "Group"

/-- An identity that is granted access. -/
structure Subject where
  kind : SubjectKind
  name : String
  namespaceName : Option String
  apiGroup : Option String
  deriving DecidableEq, Repr

/-- A role that is granted cluster-wide. -/
structure ClusterGrant where
  clusterRole : String
  deriving DecidableEq, Repr

/-- A role that is granted in namespaces: a namespace's own role or a cluster-wide one, in a given
namespace or in those that a selector picks. -/
structure NamespaceGrant where
  role : Option String
  clusterRole : Option String
  namespaceName : Option String
  selector : Option Selector
  deriving DecidableEq, Repr

/-- The selector of a grant, if one is set. -/
def NamespaceGrant.activeSelector (g : NamespaceGrant) : Option Selector :=
  g.selector.filter Selector.isSet

/-- Whether the namespaces of a grant are found by a selector. -/
def NamespaceGrant.usesSelector (g : NamespaceGrant) : Bool := g.activeSelector.isSome

/-- A named group of subjects and grants. -/
structure Binding where
  name : String
  subjects : List Subject
  clusterGrants : List ClusterGrant
  namespaceGrants : List NamespaceGrant
  deriving DecidableEq, Repr

/-- The name of a definition, and the identifier the cluster gave it. -/
structure Metadata where
  name : String
  uid : Option String
  deriving DecidableEq, Repr

/-- A definition of desired access. -/
structure Definition where
  apiVersion : String
  metadata : Metadata
  bindings : List Binding
  deriving DecidableEq, Repr

namespace Definition

/-- The kind of every definition. -/
def kind : String := "RBACDefinition"

/-- The interface version of a definition that does not give one. -/
def defaultApiVersion : String := "rbacmanager.reactiveops.io/v1beta1"

/-- The name of a definition. -/
def name (d : Definition) : String := d.metadata.name

/-- What the names of all objects of a binding begin with. -/
def nameStem (d : Definition) (b : Binding) : String := d.name ++ "-" ++ b.name

/-- Whether resolving the definition asks for namespaces. -/
def usesSelectors (d : Definition) : Bool :=
  d.bindings.any fun b => b.namespaceGrants.any NamespaceGrant.usesSelector

end Definition

end RoleGrants
