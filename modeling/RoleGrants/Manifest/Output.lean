import RoleGrants.Files.Tree
import RoleGrants.Manifest.Validate
import RoleGrants.Resolution.Basic
import RoleGrants.Resource.Manifest
import RoleGrants.Yaml.Writer

/-!
# Rendering and writing manifests

What was produced is rendered as one stream of documents, or written to a folder with one file for
each kind of object. A file is written even when it has nothing in it, so that nothing is left of
what was there before.
-/

namespace RoleGrants

/-- Manifests by the files they belong to. -/
abbrev ManifestFiles := List (String × List Json)

/-- The manifests of what was produced. -/
def Produced.manifests (p : Produced) : ManifestFiles :=
  [("serviceaccounts.yaml", p.serviceAccounts.map ServiceAccount.manifest),
   ("rolebindings.yaml", p.roleBindings.map RoleBinding.manifest),
   ("clusterrolebindings.yaml", p.clusterRoleBindings.map ClusterRoleBinding.manifest)]

/-- The files are those of the order in which manifests are applied. -/
theorem Produced.manifests_files (p : Produced) : p.manifests.map (·.1) = manifestFiles := rfl

/-- What was produced as one stream of documents, in the order of the files. -/
def Produced.render (p : Produced) : String := Yaml.render (p.manifests.flatMap (·.2))

namespace ManifestFiles

/-- Writes files into a folder that is there. The paths are those of the files written. -/
def writeInto (folder : Path) (t : FileTree) :
    ManifestFiles → Except FileFault (List Path) × FileTree
  | [] => (.ok [], t)
  | (file, docs) :: rest =>
    let path := folder.child file
    match t.write path (Yaml.render docs) with
    | .error fault => (.error fault, t)
    | .ok t =>
      match writeInto folder t rest with
      | (.ok paths, t) => (.ok (path :: paths), t)
      | (.error fault, t) => (.error fault, t)

/-- Writes files into a folder, which is made if it is not there. What was done before a fault
stays. -/
def write (t : FileTree) (folder : Path) (files : ManifestFiles) :
    Except FileFault (List Path) × FileTree :=
  match t.ensureFolder folder with
  | (some fault, t) => (.error fault, t)
  | (none, t) => writeInto folder t files

end ManifestFiles

end RoleGrants
