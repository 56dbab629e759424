import RoleGrants.Directory.Basic
import RoleGrants.Selector.Matching
import RoleGrants.Definition.Load

/-!
# Fixed directories

A table of namespaces and their labels, which lists the namespaces a selector matches in the order
of the table. The table may be changed between queries.
-/

namespace RoleGrants

namespace LabelTable

/-- The namespaces that a selector matches. -/
def list (t : LabelTable) (s : Selector) : List String :=
  (t.filter fun n => s.holds n.2).map (·.1)

/-- The names of the namespaces. -/
def names (t : LabelTable) : List String := t.map (·.1)

/-- The table without a namespace. -/
def delete (name : String) (t : LabelTable) : LabelTable := t.filter fun n => n.1 != name

/-- The labels of a namespace. -/
def labelsOf? (name : String) (t : LabelTable) : Option Labels :=
  (t.find? fun n => n.1 == name).map (·.2)

/-- Sets one label of a namespace; a label that is there keeps its place. -/
def setLabel (name key value : String) (t : LabelTable) : LabelTable :=
  t.map fun n => if n.1 = name then (n.1, Schema.putText key value n.2) else n

/-- A list of names as data. -/
def namesJson (names : List String) : Json := .array (names.map .text)

/-- The table as a directory. -/
def directory : Directory LabelTable := fun s t => (.names (namesJson (t.list s)), [], t)

end LabelTable

end RoleGrants
