import RoleGrants.Directory.Config
import RoleGrants.Directory.Scripted

/-!
# Live directories

A directory that asks a cluster. The connection is made when it is first needed, and kept: from the
settings file if one is given, else from inside the cluster, else from the default settings file.
While no connection can be made, every query tries again.

The cluster itself is known by what it answers: for each of the ways to configure a connection and
for the listing of namespaces a list of answers, given one after the other.
-/

namespace RoleGrants

/-- A call to the cluster or to the configuration of a connection. -/
inductive ClusterCall where
  | loadInCluster
  /-- Settings are loaded from a given file. -/
  | loadKubeconfig (path : String) (context : Option String)
  | loadDefaultKubeconfig (context : Option String)
  | makeClient
  | listNamespaces (query : String)
  deriving DecidableEq, Repr

/-- An answer of the cluster to the listing of namespaces. Every namespace in it has metadata: one
without, which the interface of a cluster does not allow, would fail only where its name is read,
and is left out here. -/
inductive Listing where
  | names (names : List Json)
  | failed (failure : Failure)
  deriving Repr, Inhabited

/-- What a cluster answers. An attempt to configure a connection answers with a failure or with
none. -/
structure Cluster where
  inCluster : List (Option Failure)
  kubeconfig : List (Option Failure)
  listings : List Listing
  deriving Repr

/-- A directory on a cluster. -/
structure ClusterDirectory where
  config : ClusterConfig
  connected : Bool
  cluster : Cluster
  /-- The calls so far, the last one first. -/
  calls : List ClusterCall
  deriving Repr

namespace ClusterDirectory

/-- A directory that has made no connection yet. -/
def new (config : ClusterConfig) (cluster : Cluster) : ClusterDirectory :=
  ⟨config, false, cluster, []⟩

/-- A directory that was given its connection. -/
def ofClient (config : ClusterConfig) (cluster : Cluster) : ClusterDirectory :=
  ⟨config, true, cluster, []⟩

/-- The directory with one more call. -/
def recordCall (call : ClusterCall) (d : ClusterDirectory) : ClusterDirectory :=
  { d with calls := call :: d.calls }

/-- The failure of a configuration that has nothing to answer. -/
def noConfiguration : Failure := .ofKind Failure.configurationKind

/-- Tries the configuration from inside the cluster. -/
def tryInCluster (d : ClusterDirectory) : Option Failure × ClusterDirectory :=
  let (answer, rest) := takeTurn d.cluster.inCluster
  let d : ClusterDirectory := { d with cluster := { d.cluster with inCluster := rest } }
  (answer.getD (some noConfiguration), d.recordCall .loadInCluster)

/-- Tries a settings file. -/
def tryKubeconfig (call : ClusterCall) (d : ClusterDirectory) : Option Failure × ClusterDirectory :=
  let (answer, rest) := takeTurn d.cluster.kubeconfig
  let d : ClusterDirectory := { d with cluster := { d.cluster with kubeconfig := rest } }
  (answer.getD (some noConfiguration), d.recordCall call)

/-- The record of a configuration that was loaded. -/
def loadedRecord (event : String) (fields : List (String × LogField)) : LogRecord :=
  ⟨.debug, "namespace_directory." ++ event, fields⟩

/-- Configures a connection: the failure if there is one, else the record of what was loaded. -/
def configure (d : ClusterDirectory) : Except Failure LogRecord × ClusterDirectory :=
  let context := ("context", LogField.text? d.config.context)
  match d.config.kubeconfigPath with
  | some path =>
    match d.tryKubeconfig (.loadKubeconfig path d.config.context) with
    | (some f, d) => (.error f, d)
    | (none, d) =>
      (.ok (loadedRecord "kubeconfig_loaded" [("kubeconfig_path", .text path), context]), d)
  | none =>
    match d.tryInCluster with
    | (none, d) => (.ok (loadedRecord "incluster_config_loaded" []), d)
    | (some f, d) =>
      if f.kind = Failure.configurationKind then
        match d.tryKubeconfig (.loadDefaultKubeconfig d.config.context) with
        | (some f, d) => (.error f, d)
        | (none, d) => (.ok (loadedRecord "default_kubeconfig_loaded" [context]), d)
      else (.error f, d)

/-- Makes the connection if there is none yet. -/
def connect (d : ClusterDirectory) : Except Failure (List LogRecord) × ClusterDirectory :=
  if d.connected then (.ok [], d)
  else
    match d.configure with
    | (.error f, d) => (.error f, d)
    | (.ok record, d) =>
      (.ok [record], ({ d with connected := true } : ClusterDirectory).recordCall .makeClient)

/-- Asks the cluster for the namespaces of a query. -/
def listing (query : String) (d : ClusterDirectory) : Listing × ClusterDirectory :=
  let (answer, rest) := takeTurn d.cluster.listings
  let d : ClusterDirectory := { d with cluster := { d.cluster with listings := rest } }
  (answer.getD (.names []), d.recordCall (.listNamespaces query))

/-- The live directory. Of a failure only its kind, or its status and reason, are passed on. -/
def directory : Directory ClusterDirectory := fun s d =>
  let query := s.query
  match d.connect with
  | (.error f, d) =>
    (.lookupFailed "" ("Failed to load Kubernetes configuration: " ++ f.kind) (some f.kind),
      [⟨.error, "namespace_directory.client_init_failed", [("error_type", .text f.kind)]⟩], d)
  | (.ok records, d) =>
    match d.listing query with
    | (.names names, d) =>
      (.names (.array names),
        records ++ [⟨.debug, "namespace_directory.listed",
          [("label_selector", .text query), ("count", .nat names.length)]⟩], d)
    | (.failed f, d) =>
      let reason := f.clusterReason
      (.lookupFailed query reason (some f.kind),
        records ++ [⟨.error, "namespace_directory.list_failed",
          [("label_selector", .text query), ("reason", .text reason)]⟩], d)

end ClusterDirectory

end RoleGrants
