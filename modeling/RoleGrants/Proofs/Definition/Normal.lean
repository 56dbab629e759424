import RoleGrants.Definition.Basic
import RoleGrants.Proofs.Schema.Normal

/-!
# Normal forms of definitions

The normal form of every record of a definition, as a list of its fields.  All records keep the
entries they do not know, but for metadata, where the cluster keeps entries of its own.  Values are
kept as they are, but for the texts of a grant in namespaces, where an empty one says nothing.
-/

namespace RoleGrants

open RoleGrants.Schema

/-- The fields of a requirement. -/
def Requirement.normalFields : List NormalField :=
  [⟨.one "key", none, id⟩, ⟨.one "operator", none, id⟩, ⟨.one "values", some (.array []), id⟩]

/-- The normal form of a requirement. -/
def Requirement.normal : Json → Json := Json.normalRecord normalFields

/-- The fields of a selector. -/
def Selector.normalFields : List NormalField :=
  [⟨⟨"matchLabels", some "match_labels"⟩, some .null, id⟩,
   ⟨⟨"matchExpressions", some "match_expressions"⟩, some .null,
    Json.normalItems Requirement.normal⟩]

/-- The normal form of a selector. -/
def Selector.normal : Json → Json := Json.normalRecord normalFields

/-- The fields of a subject. -/
def Subject.normalFields : List NormalField :=
  [⟨.one "kind", none, id⟩, ⟨.one "name", none, id⟩, ⟨.one "namespace", some .null, id⟩,
   ⟨⟨"apiGroup", some "api_group"⟩, some .null, id⟩]

/-- The normal form of a subject. -/
def Subject.normal : Json → Json := Json.normalRecord normalFields

/-- The fields of a cluster-wide grant. -/
def ClusterGrant.normalFields : List NormalField :=
  [⟨⟨"clusterRole", some "cluster_role"⟩, none, id⟩]

/-- The normal form of a cluster-wide grant. -/
def ClusterGrant.normal : Json → Json := Json.normalRecord normalFields

/-- The fields of a grant in namespaces. -/
def NamespaceGrant.normalFields : List NormalField :=
  [⟨.one "role", some .null, Json.emptyAsNull⟩,
   ⟨⟨"clusterRole", some "cluster_role"⟩, some .null, Json.emptyAsNull⟩,
   ⟨.one "namespace", some .null, Json.emptyAsNull⟩,
   ⟨⟨"namespaceSelector", some "namespace_selector"⟩, some .null, Selector.normal⟩]

/-- The normal form of a grant in namespaces. -/
def NamespaceGrant.normal : Json → Json := Json.normalRecord normalFields

/-- The fields of a binding. -/
def Binding.normalFields : List NormalField :=
  [⟨.one "name", none, id⟩,
   ⟨.one "subjects", some (.array []), Json.normalItems Subject.normal⟩,
   ⟨⟨"clusterRoleBindings", some "cluster_role_bindings"⟩, some (.array []),
    Json.normalItems ClusterGrant.normal⟩,
   ⟨⟨"roleBindings", some "role_bindings"⟩, some (.array []),
    Json.normalItems NamespaceGrant.normal⟩]

/-- The normal form of a binding. -/
def Binding.normal : Json → Json := Json.normalRecord normalFields

/-- The fields of metadata. -/
def Metadata.normalFields : List NormalField :=
  [⟨.one "name", none, id⟩, ⟨.one "uid", some .null, id⟩]

/-- The normal form of metadata. -/
def Metadata.normal : Json → Json := Json.normalOpenRecord normalFields

/-- The fields of a definition. -/
def Definition.normalFields : List NormalField :=
  [⟨⟨"apiVersion", some "api_version"⟩, some (.text Definition.defaultApiVersion), id⟩,
   ⟨.one "kind", some (.text Definition.kind), id⟩,
   ⟨.one "metadata", none, Metadata.normal⟩,
   ⟨⟨"rbacBindings", some "rbac_bindings"⟩, some (.array []), Json.normalItems Binding.normal⟩]

/-- The normal form of a definition. -/
def Definition.normal : Json → Json := Json.normalRecord normalFields

end RoleGrants
