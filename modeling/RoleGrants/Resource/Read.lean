import RoleGrants.Resource.Basic

/-!
# Reading produced objects

Objects are read from their plain form, in which every field has one spelling. Unknown fields are
faults.
-/

namespace RoleGrants

open RoleGrants.Schema

/-- Reads an owner reference. -/
def OwnerReference.read : Reader OwnerReference :=
  Fields.closed "OwnerReference"
    (OwnerReference.mk <$> Fields.required (.one "api_version") text
      <*> Fields.required (.one "kind") text
      <*> Fields.required (.one "name") text
      <*> Fields.required (.one "uid") text
      <*> Fields.withDefault (.one "controller") true boolean
      <*> Fields.withDefault (.one "block_owner_deletion") true boolean)

/-- Reads metadata. -/
def ObjectMeta.read : Reader ObjectMeta :=
  Fields.closed "ObjectMeta"
    (ObjectMeta.mk <$> Fields.required (.one "name") nonEmptyText
      <*> Fields.withDefault (.one "namespace") none (optional text)
      <*> Fields.withDefault (.one "labels") [] textMap
      <*> Fields.withDefault (.one "owner_references") [] (tupleOf OwnerReference.read))

/-- Reads a role reference. -/
def RoleRef.read : Reader RoleRef :=
  Fields.closed "RoleRef"
    (RoleRef.mk <$> Fields.required (.one "kind") (oneOf RoleKind.words)
      <*> Fields.required (.one "name") nonEmptyText
      <*> Fields.withDefault (.one "api_group") rbacApiGroup text)

/-- Reads a service account. -/
def ServiceAccount.read : Reader ServiceAccount :=
  Fields.closed "ServiceAccountResource"
    (ServiceAccount.mk <$> Fields.required (.one "metadata") ObjectMeta.read)

/-- Reads a role binding. -/
def RoleBinding.read : Reader RoleBinding :=
  Fields.closed "RoleBindingResource"
    (RoleBinding.mk <$> Fields.required (.one "metadata") ObjectMeta.read
      <*> Fields.required (.one "role_ref") RoleRef.read
      <*> Fields.required (.one "subjects") (someOf Subject.read))

/-- Reads a cluster-wide role binding. -/
def ClusterRoleBinding.read : Reader ClusterRoleBinding :=
  Fields.closed "ClusterRoleBindingResource"
    (ClusterRoleBinding.mk <$> Fields.required (.one "metadata") ObjectMeta.read
      <*> Fields.required (.one "role_ref") RoleRef.read
      <*> Fields.required (.one "subjects") (someOf Subject.read))

end RoleGrants
