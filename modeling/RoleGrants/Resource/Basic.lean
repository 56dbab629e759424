import RoleGrants.Definition.Read

/-!
# Produced objects

Resolving a definition produces service accounts, bindings of roles in a namespace, and
cluster-wide bindings of roles. All of them carry the same kind of metadata: a name, a namespace
unless they are cluster-wide, labels that mark them as managed, and references to their owner.
-/

namespace RoleGrants

open RoleGrants.Schema

/-- A reference to the definition that controls an object. -/
structure OwnerReference where
  apiVersion : String
  kind : String
  name : String
  uid : String
  controller : Bool
  blockOwnerDeletion : Bool
  deriving DecidableEq, Repr

/-- The metadata of an object. -/
structure ObjectMeta where
  name : String
  namespaceName : Option String
  labels : List (String × String)
  owners : List OwnerReference
  deriving DecidableEq, Repr

/-- Whether a role belongs to a namespace or to the cluster. -/
inductive RoleKind where
  | role
  | clusterRole
  deriving DecidableEq, Repr

/-- The role kinds by the words for them. -/
def RoleKind.words : List (String × RoleKind) := [("Role", .role), ("ClusterRole", .clusterRole)]

/-- The word for a role kind. -/
def RoleKind.word : RoleKind → String
  | .role => "Role"
  | .clusterRole => "ClusterRole"

/-- The interface group of roles and their bindings. -/
def rbacApiGroup : String := "rbac.authorization.k8s.io"

/-- The role that a binding grants. -/
structure RoleRef where
  kind : RoleKind
  name : String
  apiGroup : String := rbacApiGroup
  deriving DecidableEq, Repr

/-- A service account. -/
structure ServiceAccount where
  metadata : ObjectMeta
  deriving DecidableEq, Repr

/-- A grant of a role in a namespace. -/
structure RoleBinding where
  metadata : ObjectMeta
  roleRef : RoleRef
  subjects : List Subject
  deriving DecidableEq, Repr

/-- A cluster-wide grant of a role. -/
structure ClusterRoleBinding where
  metadata : ObjectMeta
  roleRef : RoleRef
  subjects : List Subject
  deriving DecidableEq, Repr

/-! ## Ownership -/

/-- The label that marks managed objects. -/
def managedLabels : List (String × String) := [("app.kubernetes.io/managed-by", "rbac-manager")]

/-- The references from produced objects to their definition. The cluster refuses a reference
without an identifier, so a definition that has none owns nothing. -/
def Definition.ownerReferences (d : Definition) : List OwnerReference :=
  match d.metadata.uid with
  | some uid =>
    if uid.isEmpty then []
    else [⟨d.apiVersion, Definition.kind, d.name, uid, true, true⟩]
  | none => []

/-- What every object of a definition is marked with. -/
structure Mark where
  owners : List OwnerReference
  labels : List (String × String) := managedLabels
  deriving DecidableEq, Repr

/-- The mark of a definition's objects. -/
def Definition.mark (d : Definition) : Mark := { owners := d.ownerReferences }

/-- The metadata of a marked object. -/
def Mark.stamp (m : Mark) (name : String) (namespaceName : Option String) : ObjectMeta :=
  ⟨name, namespaceName, m.labels, m.owners⟩

/-- The metadata of a marked object whose name and namespace may be any data. -/
def Mark.stampData (m : Mark) (name namespaceName : Json) : Check ObjectMeta :=
  ((nonEmptyText name.toValue).under "name" |>.map m.stamp).and
    ((optional text namespaceName.toValue).under "namespace")

end RoleGrants
