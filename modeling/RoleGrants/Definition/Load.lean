import RoleGrants.Definition.Read
import RoleGrants.Files.Tree
import RoleGrants.Yaml.Document

/-!
# Loading documents from files

Definitions and tables of namespace labels are kept in YAML files. A file that is no such document
is reported together with where it came from. Three kinds of fault are not about the document as a
whole and are reported as they are: the file cannot be opened, its bytes are no text, or a scalar
has a senseless text for its tag or no text that can be written out. So is a failure of the YAML
loader, which is given: what becomes of a file depends on nothing but what the loader makes of its
text.
-/

namespace RoleGrants

open RoleGrants.Schema RoleGrants.Text

/-- Why a document is not what it should be. -/
inductive LoadProblem where
  /-- A definition is a mapping, and this is a value of another kind. -/
  | notMapping (kind : String)
  /-- The mapping departs from the schema. -/
  | invalid (faults : List Fault)
  | malformedYaml
  | notLabelTable
  /-- The labels of a namespace are no mapping. -/
  | notLabels (namespaceName : String)
  deriving DecidableEq, Repr

/-- The wording of a problem. -/
def LoadProblem.wording : LoadProblem → String
  | .notMapping kind => "Expected a mapping, got " ++ kind
  | .invalid faults => "Invalid RBACDefinition: " ++ report faults
  | .malformedYaml => "Invalid YAML: the text is not one well-formed document"
  | .notLabelTable => "Expected a mapping of namespace to labels"
  | .notLabels namespaceName => "Labels of namespace '" ++ namespaceName ++ "' must be a mapping"

/-- Why no document was loaded. -/
inductive LoadError where
  | document (source : String) (problem : LoadProblem)
  | file (fault : FileFault)
  | undecodable (fault : Utf8Fault)
  | scalar (fault : Yaml.ScalarFault)
  /-- The loader gave up. -/
  | abandoned (message : String)
  deriving DecidableEq, Repr

/-- The message on a document. A source that is empty is left out. -/
def loadMessage (source wording : String) : String :=
  if source.isEmpty then wording else source ++ ": " ++ wording

/-- The message of a load error. -/
def LoadError.message : LoadError → String
  | .document source problem => loadMessage source problem.wording
  | .file fault => fault.message
  | .undecodable fault => fault.message
  | .scalar fault => fault.message
  | .abandoned message => message

/-! ## Definitions -/

/-- The definition that a document value is. -/
def Definition.ofValue (source : String) (v : Value) : Except LoadError Definition :=
  match v.entries? with
  | none => .error (.document source (.notMapping v.kindName))
  | some _ =>
    match Definition.read v with
    | .ok d => .ok d
    | .failed faults => .error (.document source (.invalid faults))

/-- The text with every line break as a single line feed. -/
def universalLines : List Char → List Char
  | '\r' :: '\n' :: rest => '\n' :: universalLines rest
  | '\r' :: rest => '\n' :: universalLines rest
  | c :: rest => c :: universalLines rest
  | [] => []

/-- The text of a file. -/
def FileTree.readText (t : FileTree) (p : Path) : Except LoadError (List Char) :=
  match t.read p with
  | .error fault => .error (.file fault)
  | .ok (.inl content) => .ok (universalLines content.toList)
  | .ok (.inr bytes) =>
    match decodeUtf8 bytes with
    | .ok text => .ok (universalLines text)
    | .error fault => .error (.undecodable fault)

/-- The document value of a file. -/
def FileTree.readDocument (loader : Yaml.Loader) (t : FileTree) (p : Path) :
    Except LoadError Value :=
  match t.readText p with
  | .error e => .error e
  | .ok text =>
    match loader text with
    | .ok v => .ok v
    | .error .malformed => .error (.document p.text .malformedYaml)
    | .error (.scalar fault) => .error (.scalar fault)
    | .error (.abandoned message) => .error (.abandoned message)

/-- The definition of a file. -/
def Definition.load (loader : Yaml.Loader) (t : FileTree) (p : Path) :
    Except LoadError Definition := do
  Definition.ofValue p.text (← t.readDocument loader p)

/-! ## Namespace labels -/

/-- The namespaces and their labels, in the order of the file. -/
abbrev LabelTable := List (String × List (String × String))

/-- Puts the labels of a namespace into a table: a present namespace keeps its place. -/
def LabelTable.put (name : String) (labels : List (String × String)) : LabelTable → LabelTable
  | [] => [(name, labels)]
  | (n, old) :: rest =>
    if n = name then (n, labels) :: rest else (n, old) :: LabelTable.put name labels rest

/-- The labels of a mapping, keys and values as text. -/
def labelsOf (entries : List (Value × Value)) : List (String × String) :=
  entries.foldl (fun labels e => putText e.1.plain e.2.plain labels) []

/-- The labels of a value in a table, keys and values as text; a value that counts as absent has
none. -/
def labelsOfValue (source name : String) (v : Value) : Except LoadError (List (String × String)) :=
  if v.isBlank then .ok []
  else
    match v.entries? with
    | none => .error (.document source (.notLabels name))
    | some entries =>
      if Value.entriesWritable entries then .ok (labelsOf entries)
      else .error (.scalar .unwritableInteger)

/-- Reads the entries of a table on top of those already read. -/
def LabelTable.ofEntries (source : String) (table : LabelTable) :
    List (Value × Value) → Except LoadError LabelTable
  | [] => .ok table
  | (name, v) :: rest =>
    if !name.isWritable then .error (.scalar .unwritableInteger)
    else
      match labelsOfValue source name.plain v with
      | .ok labels => ofEntries source (table.put name.plain labels) rest
      | .error e => .error e

/-- The table that a document value is. -/
def LabelTable.ofValue (source : String) (v : Value) : Except LoadError LabelTable :=
  match v with
  | .null => .ok []
  | v =>
    match v.entries? with
    | some entries => ofEntries source [] entries
    | none => .error (.document source .notLabelTable)

/-- The table of a file. -/
def LabelTable.load (loader : Yaml.Loader) (t : FileTree) (p : Path) :
    Except LoadError LabelTable := do
  LabelTable.ofValue p.text (← t.readDocument loader p)

end RoleGrants
