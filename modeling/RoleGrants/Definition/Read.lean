import RoleGrants.Definition.Basic

/-!
# Reading definitions

A definition is read from a document value field by field. Fields with a document spelling in mixed
case may also be given in their plain spelling. Unknown fields are faults everywhere but in the
metadata, where the cluster keeps entries of its own.
-/

namespace RoleGrants

open RoleGrants.Schema

/-- A service account subject names its namespace. -/
def Subject.rule (s : Subject) : Option Rule :=
  if s.kind = .serviceAccount && (s.namespaceName.getD "").isEmpty then
    some (.accountNeedsNamespace s.name)
  else none

/-- Reads a subject. -/
def Subject.read : Reader Subject := fun v =>
  Check.obey Subject.rule <|
    Fields.closed "Subject"
      (Subject.mk <$> Fields.required (.one "kind") (oneOf SubjectKind.words)
        <*> Fields.required (.one "name") nonEmptyText
        <*> Fields.withDefault (.one "namespace") none (optional text)
        <*> Fields.withDefault ⟨"apiGroup", some "api_group"⟩ none (optional text)) v

/-- Reads a cluster-wide grant. -/
def ClusterGrant.read : Reader ClusterGrant :=
  Fields.closed "ClusterRoleBindingSpec"
    (ClusterGrant.mk <$> Fields.required ⟨"clusterRole", some "cluster_role"⟩ nonEmptyText)

/-- A text that counts as not given when it is empty. -/
def givenText : Reader (Option String) := fun v =>
  (optional text v).map fun s => s.filter fun s => !s.isEmpty

/-- Reads a grant in namespaces. -/
def NamespaceGrant.read : Reader NamespaceGrant :=
  Fields.closed "RoleBindingSpec"
    (NamespaceGrant.mk <$> Fields.withDefault (.one "role") none givenText
      <*> Fields.withDefault ⟨"clusterRole", some "cluster_role"⟩ none givenText
      <*> Fields.withDefault (.one "namespace") none givenText
      <*> Fields.withDefault ⟨"namespaceSelector", some "namespace_selector"⟩ none
        (optional Selector.read))

/-- Reads a binding. -/
def Binding.read : Reader Binding :=
  Fields.closed "RBACBinding"
    (Binding.mk <$> Fields.required (.one "name") nonEmptyText
      <*> Fields.withDefault (.one "subjects") [] (listOf Subject.read)
      <*> Fields.withDefault ⟨"clusterRoleBindings", some "cluster_role_bindings"⟩ []
        (listOf ClusterGrant.read)
      <*> Fields.withDefault ⟨"roleBindings", some "role_bindings"⟩ []
        (listOf NamespaceGrant.read))

/-- Reads metadata. -/
def Metadata.read : Reader Metadata :=
  Fields.opened "DefinitionMetadata"
    (Metadata.mk <$> Fields.required (.one "name") nonEmptyText
      <*> Fields.withDefault (.one "uid") none (optional text))

/-- The first name that occurs a second time. -/
def firstRepeated (seen : List String) : List String → Option String
  | [] => none
  | name :: rest => if seen.contains name then some name else firstRepeated (name :: seen) rest

/-- The bindings of a definition have different names. -/
def Definition.rule (d : Definition) : Option Rule :=
  (firstRepeated [] (d.bindings.map Binding.name)).map (.duplicateBinding · d.name)

/-- Reads a definition. -/
def Definition.read : Reader Definition := fun v =>
  Check.obey Definition.rule <|
    Fields.closed "RBACDefinition"
      ((fun apiVersion (_ : Unit) metadata bindings => Definition.mk apiVersion metadata bindings)
        <$> Fields.withDefault ⟨"apiVersion", some "api_version"⟩ Definition.defaultApiVersion text
        <*> Fields.withDefault (.one "kind") () (oneOf [(Definition.kind, ())])
        <*> Fields.required (.one "metadata") Metadata.read
        <*> Fields.withDefault ⟨"rbacBindings", some "rbac_bindings"⟩ [] (listOf Binding.read)) v

end RoleGrants
