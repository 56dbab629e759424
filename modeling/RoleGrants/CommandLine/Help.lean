import RoleGrants.CommandLine.Usage

/-!
# Help

The help of the program and of its command, laid out for eighty columns.
-/

namespace RoleGrants.CommandLine

/-- Lines of text. -/
def lines (ls : List String) : String := String.join (ls.map (· ++ "\n"))

/-- The help of a command. -/
def Scope.help : Scope → String
  | .program => Scope.usage .program ++ lines
    ["",
     "  rbac-manager - resolve RBACDefinitions into Kubernetes RBAC objects.",
     "",
     "Options:",
     "  --version                       Show the version and exit.",
     "  --log-level [debug|info|warning|error]",
     "                                  Minimum level of log output (stderr).",
     "                                  [default: WARNING]",
     "  --json-logs / --console-logs    Emit logs as JSON lines instead of console",
     "                                  format.",
     "  -h, --help                      Show this message and exit.",
     "",
     "Commands:",
     "  resolve  Resolve an RBACDefinition into Kubernetes RBAC manifests.",
     "",
     "  Use 'rbac-manager <command> --help' for command-specific help."]
  | .resolve => Scope.usage .resolve ++ lines
    ["",
     "  Resolve an RBACDefinition into Kubernetes RBAC manifests.",
     "",
     "  Without --output the manifests are printed to stdout as one multi-document",
     "  YAML stream. With --output they are written to:",
     "  <output>/serviceaccounts.yaml     <output>/rolebindings.yaml",
     "  <output>/clusterrolebindings.yaml",
     "",
     "  Examples:     $ rbac-manager resolve -d rbac-definition.yaml     $ rbac-",
     "  manager resolve -d rbac-definition.yaml -o target/rbac     $ rbac-manager",
     "  resolve -d rbac-definition.yaml --namespace-labels ns.yaml",
     "",
     "Options:",
     "  -d, --definition PATH    Path to the RBACDefinition YAML file.  [required]",
     "  -o, --output PATH        Directory to write manifests to (default: stdout).",
     "  --dry-run                Resolve and validate without printing or writing",
     "                           manifests.",
     "  --namespace-labels PATH  YAML mapping of namespace to labels, used instead",
     "                           of the cluster.",
     "  --kubeconfig PATH        Path to kubeconfig (default: in-cluster, then",
     "                           ~/.kube/config).",
     "  --context TEXT           Kubeconfig context to use.",
     "  -h, --help               Show this message and exit."]

/-- What is known about the version: its text, if the program was installed with one. -/
def versionText (installed : Option String) : String := installed.getD "unknown"

/-- The version of this program. -/
def version : String := "0.1.0"

end RoleGrants.CommandLine
