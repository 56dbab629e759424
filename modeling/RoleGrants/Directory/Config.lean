import RoleGrants.Schema.Check
import RoleGrants.Files.Path

/-!
# Connection settings

Where the settings for the connection to the cluster are kept, and which of the contexts in them to
use. A path that begins with a tilde lies in the home folder.
-/

namespace RoleGrants

open RoleGrants.Schema

/-- Connection settings. -/
structure ClusterConfig where
  kubeconfigPath : Option String
  context : Option String
  deriving DecidableEq, Repr

namespace ClusterConfig

/-- The settings that say nothing. -/
def default : ClusterConfig := ⟨none, none⟩

/-- Why there are no settings. -/
inductive Fault where
  | invalid (faults : List Schema.Fault)
  /-- The home folder of the user a path names is not known. -/
  | unknownHome
  deriving DecidableEq, Repr

/-- What is said where the home folder is not known. -/
def unknownHomeMessage : String := "Could not determine home directory."

/-- A path in normal form, a tilde at its beginning replaced by the home folder. The home folders
of other users are not known. -/
def expandHome (home : Path) (path : Path) : Option Path :=
  if path.isAbsolute then some path
  else
    match path.parts with
    | [] => some path
    | first :: rest =>
      if first = "~" then some ⟨home.slashes, home.parts ++ rest⟩
      else if first.toList.head? = some '~' then none
      else some path

/-- The settings with the path expanded. -/
def expand (home : Path) (c : ClusterConfig) : Except Fault ClusterConfig :=
  match c.kubeconfigPath with
  | none => .ok c
  | some p =>
    match expandHome home (.ofText p) with
    | some path => .ok { c with kubeconfigPath := some path.text }
    | none => .error .unknownHome

/-- Reads settings as they were given. -/
def readGiven : Reader ClusterConfig :=
  Fields.closed "KubernetesDirectoryConfig"
    (ClusterConfig.mk <$> Fields.withDefault (.one "kubeconfig_path") none (optional text)
      <*> Fields.withDefault (.one "context") none (optional text))

/-- The path of the settings file that a value gives, if it gives one that is a text. -/
def givenPath? (v : Value) : Option String :=
  match v.entries? with
  | some entries =>
    match Value.findText? "kubeconfig_path" entries with
    | some (.text p) => some p
    | _ => none
  | none => none

/-- Reads settings. A path whose home folder is not known is reported before any other fault. -/
def read (home : Path) (v : Value) : Except Fault ClusterConfig :=
  match (givenPath? v).map fun p => expandHome home (.ofText p) with
  | some none => .error .unknownHome
  | _ =>
    match readGiven v with
    | .ok c => c.expand home
    | .failed faults => .error (.invalid faults)

/-- Settings as plain data. -/
def dump (c : ClusterConfig) : Json :=
  .object [("kubeconfig_path", .text? c.kubeconfigPath), ("context", .text? c.context)]

end ClusterConfig

end RoleGrants
