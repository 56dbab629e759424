import RoleGrants.Definition.Basic

/-!
# Definitions as plain data

A dump holds every field under its plain spelling, those that were not given with their defaults.
-/

namespace RoleGrants

/-- A subject as plain data. -/
def Subject.dump (s : Subject) : Json :=
  .object [("kind", .text s.kind.word), ("name", .text s.name),
    ("namespace", .text? s.namespaceName), ("api_group", .text? s.apiGroup)]

/-- A cluster-wide grant as plain data. -/
def ClusterGrant.dump (g : ClusterGrant) : Json := .object [("cluster_role", .text g.clusterRole)]

/-- A grant in namespaces as plain data. -/
def NamespaceGrant.dump (g : NamespaceGrant) : Json :=
  .object [("role", .text? g.role), ("cluster_role", .text? g.clusterRole),
    ("namespace", .text? g.namespaceName),
    ("namespace_selector", (g.selector.map Selector.dump).getD .null)]

/-- A binding as plain data. -/
def Binding.dump (b : Binding) : Json :=
  .object [("name", .text b.name), ("subjects", .array (b.subjects.map Subject.dump)),
    ("cluster_role_bindings", .array (b.clusterGrants.map ClusterGrant.dump)),
    ("role_bindings", .array (b.namespaceGrants.map NamespaceGrant.dump))]

/-- Metadata as plain data. -/
def Metadata.dump (m : Metadata) : Json :=
  .object [("name", .text m.name), ("uid", .text? m.uid)]

/-- A definition as plain data. -/
def Definition.dump (d : Definition) : Json :=
  .object [("api_version", .text d.apiVersion), ("kind", .text Definition.kind),
    ("metadata", d.metadata.dump), ("rbac_bindings", .array (d.bindings.map Binding.dump))]

end RoleGrants
