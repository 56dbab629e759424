import RoleGrants.Value

/-!
# Checking manifests

A manifest is checked for what the cluster requires of the three kinds of objects that are produced.
Manifests may be any data, and so a check may fail to make sense at all: data without entries cannot
be asked for them, and a list or an object is no kind.
-/

namespace RoleGrants

/-- What is wrong with a manifest. -/
inductive ManifestProblem where
  | missingField (name : String)
  | unknownKind (kind : Json)
  | metadataNotObject
  | missingName
  | missingNamespace (kind : String)
  | unwantedNamespace
  | missingRoleRef (kind : String)
  | missingSubjects (kind : String)
  deriving Repr

/-- The kinds that are produced, sorted. -/
def manifestKinds : List String := ["ClusterRoleBinding", "RoleBinding", "ServiceAccount"]

/-- The kinds that lie in a namespace. -/
def namespacedKinds : List String := ["ServiceAccount", "RoleBinding"]

/-- The kinds that bind a role. -/
def bindingKinds : List String := ["RoleBinding", "ClusterRoleBinding"]

/-- The fields that every manifest has. -/
def requiredFields : List String := ["apiVersion", "kind", "metadata"]

/-- The wording of a problem. -/
def ManifestProblem.message : ManifestProblem → String
  | .missingField name => "Missing required field: " ++ name
  | .unknownKind kind =>
    "Unknown kind: " ++ kind.plain ++ ". Expected one of: "
      ++ (Json.array (manifestKinds.map .text)).plain
  | .metadataNotObject => "metadata must be a dictionary"
  | .missingName => "metadata.name is required"
  | .missingNamespace kind => "metadata.namespace is required for " ++ kind
  | .unwantedNamespace => "ClusterRoleBinding must not set metadata.namespace"
  | .missingRoleRef kind => "roleRef is required for " ++ kind
  | .missingSubjects kind => "subjects must be non-empty for " ++ kind

/-- Why a check makes no sense. -/
inductive ManifestFault where
  /-- Data of this kind contains nothing. -/
  | noContainer (kind : String)
  /-- Data of this kind has no entries. -/
  | noEntries (kind : String)
  /-- Data of this kind cannot be looked for. -/
  | noKind (kind : String)
  deriving DecidableEq, Repr

/-- The message of a fault. -/
def ManifestFault.message : ManifestFault → String
  | .noContainer kind => "argument of type '" ++ kind ++ "' is not iterable"
  | .noEntries kind => "'" ++ kind ++ "' object has no attribute 'get'"
  | .noKind kind => "unhashable type: '" ++ kind ++ "'"

namespace Manifest

/-- What is asked of the metadata of a manifest of some kind. -/
def checkMetadata (kind : Option String) (metadata : List (String × Json)) : List ManifestProblem :=
  let lacksNamespace := ((Json.find? "namespace" metadata).map Json.isBlank).getD true
  (if (Json.find? "name" metadata).isSome then [] else [.missingName])
    ++ (match kind with
        | some k =>
          if namespacedKinds.contains k && lacksNamespace then [.missingNamespace k] else []
        | none => [])
    ++ (if kind = some "ClusterRoleBinding" && (Json.find? "namespace" metadata).isSome then
          [.unwantedNamespace]
        else [])

/-- What is asked of a manifest that binds a role. -/
def checkBinding (kind : Option String) (entries : List (String × Json)) : List ManifestProblem :=
  let lacks := fun key => ((Json.find? key entries).map Json.isBlank).getD true
  match kind with
  | some k =>
    if bindingKinds.contains k then
      (if lacks "roleRef" then [.missingRoleRef k] else [])
        ++ (if lacks "subjects" then [.missingSubjects k] else [])
    else []
  | none => []

/-- Whether a kind is a list or an object, which no kind can be compared with. -/
def isCollection : Json → Bool
  | .array _ | .object _ => true
  | _ => false

/-- The text that a kind is. -/
def kindText? : Json → Option String
  | .text s => some s
  | _ => none

/-- Looking a kind up among the known kinds makes sense unless it is a list or an object. -/
def lookUpKind (kind : Json) : Except ManifestFault Unit :=
  if isCollection kind then .error (.noKind kind.toValue.kindName) else .ok ()

/-- The problems of a manifest that is an object. -/
def checkEntries (entries : List (String × Json)) : Except ManifestFault (List ManifestProblem) := do
  let missing := requiredFields.filterMap fun name =>
    if (Json.find? name entries).isSome then none else some (ManifestProblem.missingField name)
  let kind := (Json.find? "kind" entries).getD .null
  let known := (kindText? kind).map manifestKinds.contains |>.getD false
  if !kind.isBlank then lookUpKind kind
  let unknown := if !kind.isBlank && !known then [ManifestProblem.unknownKind kind] else []
  match (Json.find? "metadata" entries).getD (.object []) with
  | .object metadata =>
    lookUpKind kind
    return missing ++ unknown ++ checkMetadata (kindText? kind) metadata
      ++ checkBinding (kindText? kind) entries
  | _ => return missing ++ unknown ++ [.metadataNotObject]

/-- The problems of a manifest. -/
def check : Json → Except ManifestFault (List ManifestProblem)
  | .object entries => checkEntries entries
  | .array _ => .error (.noEntries "list")
  | .text _ => .error (.noEntries "str")
  | other => .error (.noContainer other.toValue.kindName)

/-- The messages on the manifests of a file, each with its position. -/
def checkFile (file : String) (position : Nat) : List Json → Except ManifestFault (List String)
  | [] => .ok []
  | doc :: rest => do
    let problems ← check doc
    let more ← checkFile file (position + 1) rest
    let place := file ++ "[" ++ String.ofList (Number.decimal position) ++ "]: "
    return problems.map (fun p => place ++ p.message) ++ more

/-- The messages on the manifests of several files. -/
def checkAll : List (String × List Json) → Except ManifestFault (List String)
  | [] => .ok []
  | (file, docs) :: rest => do
    let messages ← checkFile file 0 docs
    let more ← checkAll rest
    return messages ++ more

/-- Whether the manifests of several files have no problems, and the messages on them. -/
def validateAll (files : List (String × List Json)) : Except ManifestFault (Bool × List String) :=
  (checkAll files).map fun messages => (messages.length == 0, messages)

end Manifest

end RoleGrants
