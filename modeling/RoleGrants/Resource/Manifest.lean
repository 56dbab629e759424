import RoleGrants.Resource.Basic
import RoleGrants.Definition.Dump

/-!
# Manifests

The form in which the cluster takes objects, and the plain form with all fields.
-/

namespace RoleGrants

/-- A subject as an entry of a binding. -/
def Subject.manifest (s : Subject) : Json :=
  .object <| [("kind", .text s.kind.word), ("name", .text s.name)]
    ++ (s.apiGroup.map fun g => ("apiGroup", Json.text g)).toList
    ++ (s.namespaceName.map fun n => ("namespace", Json.text n)).toList

/-- An owner reference as an entry of metadata. -/
def OwnerReference.manifest (o : OwnerReference) : Json :=
  .object [("apiVersion", .text o.apiVersion), ("kind", .text o.kind), ("name", .text o.name),
    ("uid", .text o.uid), ("controller", .bool o.controller),
    ("blockOwnerDeletion", .bool o.blockOwnerDeletion)]

/-- Metadata as a block of a manifest. A cluster-wide object has no namespace there, and an object
without owners no owner references. -/
def ObjectMeta.manifest (m : ObjectMeta) : Json :=
  .object <| [("name", .text m.name)]
    ++ (m.namespaceName.map fun n => ("namespace", Json.text n)).toList
    ++ [("labels", labelsDump m.labels)]
    ++ (if m.owners.isEmpty then []
        else [("ownerReferences", .array (m.owners.map OwnerReference.manifest))])

/-- A role reference as a block of a manifest. -/
def RoleRef.manifest (r : RoleRef) : Json :=
  .object [("apiGroup", .text r.apiGroup), ("kind", .text r.kind.word), ("name", .text r.name)]

/-- The interface version of role bindings. -/
def rbacApiVersion : String := rbacApiGroup ++ "/v1"

/-- A service account as a manifest. -/
def ServiceAccount.manifest (a : ServiceAccount) : Json :=
  .object [("apiVersion", .text "v1"), ("kind", .text "ServiceAccount"),
    ("metadata", a.metadata.manifest)]

/-- The manifest of a binding of either kind. -/
def bindingManifest (kind : String) (metadata : ObjectMeta) (roleRef : RoleRef)
    (subjects : List Subject) : Json :=
  .object [("apiVersion", .text rbacApiVersion), ("kind", .text kind),
    ("metadata", metadata.manifest), ("roleRef", roleRef.manifest),
    ("subjects", .array (subjects.map Subject.manifest))]

/-- A role binding as a manifest. -/
def RoleBinding.manifest (b : RoleBinding) : Json :=
  bindingManifest "RoleBinding" b.metadata b.roleRef b.subjects

/-- A cluster-wide role binding as a manifest. -/
def ClusterRoleBinding.manifest (b : ClusterRoleBinding) : Json :=
  bindingManifest "ClusterRoleBinding" b.metadata b.roleRef b.subjects

/-! ## Dumps -/

/-- An owner reference as plain data. -/
def OwnerReference.dump (o : OwnerReference) : Json :=
  .object [("api_version", .text o.apiVersion), ("kind", .text o.kind), ("name", .text o.name),
    ("uid", .text o.uid), ("controller", .bool o.controller),
    ("block_owner_deletion", .bool o.blockOwnerDeletion)]

/-- Metadata as plain data. -/
def ObjectMeta.dump (m : ObjectMeta) : Json :=
  .object [("name", .text m.name), ("namespace", .text? m.namespaceName),
    ("labels", labelsDump m.labels),
    ("owner_references", .array (m.owners.map OwnerReference.dump))]

/-- A role reference as plain data. -/
def RoleRef.dump (r : RoleRef) : Json :=
  .object [("kind", .text r.kind.word), ("name", .text r.name), ("api_group", .text r.apiGroup)]

/-- A service account as plain data. -/
def ServiceAccount.dump (a : ServiceAccount) : Json := .object [("metadata", a.metadata.dump)]

/-- A binding of either kind as plain data. -/
def bindingDump (metadata : ObjectMeta) (roleRef : RoleRef) (subjects : List Subject) : Json :=
  .object [("metadata", metadata.dump), ("role_ref", roleRef.dump),
    ("subjects", .array (subjects.map Subject.dump))]

/-- A role binding as plain data. -/
def RoleBinding.dump (b : RoleBinding) : Json := bindingDump b.metadata b.roleRef b.subjects

/-- A cluster-wide role binding as plain data. -/
def ClusterRoleBinding.dump (b : ClusterRoleBinding) : Json :=
  bindingDump b.metadata b.roleRef b.subjects

end RoleGrants
