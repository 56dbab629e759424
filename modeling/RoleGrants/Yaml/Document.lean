import RoleGrants.Yaml.Node
import RoleGrants.Yaml.Token.Scan
import RoleGrants.Yaml.Scalar

/-!
# Values of documents

The value of a tree. Scalars are made when their collection is looked into, and a collection is
looked into only after all collections that lie less deep; so of several faults the one that counts
is the least deep, and the first of those.

What takes values from texts does so by a `Loader`; `load` is the one of this library. It goes to
any depth, and it leaves out three things: half of a surrogate pair is no character, a collection
that is merged into a part of itself brings in nothing, and a set keeps the order of its text.

`Outcome` keeps the value of a node together with its first fault at each depth, which makes the
order in which faults count a matter of merging lists.
-/

namespace RoleGrants.Yaml

/-- The value of a node, and its first fault at each depth, its own depth first. The value means
something only where there are no faults. -/
structure Outcome where
  value : Value
  faults : List (Option Fault)

/-- The first faults of two nodes that lie side by side. -/
def besides : List (Option Fault) → List (Option Fault) → List (Option Fault)
  | [], fs => fs
  | fs, [] => fs
  | f :: fs, g :: gs => f.or g :: besides fs gs

namespace Outcome

/-- A scalar. -/
def ofScalar : Except Fault Value → Outcome
  | .ok v => ⟨v, [none]⟩
  | .error fault => ⟨.null, [some fault]⟩

/-- The fault of a node at its own depth. -/
def own (o : Outcome) : Option Fault := o.faults.head?.getD none

/-- A collection with the first fault among its parts, and the parts. -/
def ofParts (value : Value) (own : Option Fault) (parts : List Outcome) : Outcome :=
  ⟨value, none :: own :: parts.foldl (fun fs o => besides fs o.faults.tail) []⟩

/-- A collection that cannot be one, which shows when it is looked into. -/
def misfit : Outcome := ⟨.null, [none, some .malformed]⟩

/-- The first fault that counts, or the value. -/
def result (o : Outcome) : Except Fault Value :=
  match o.faults.findSome? id with
  | some fault => .error fault
  | none => .ok o.value

end Outcome

/-- The text of a scalar; of a mapping, that of its own value. -/
def Node.text? : Node → Option (List Char)
  | .scalar _ text => some text
  | .mapping _ entries => entriesText? entries
  | _ => none
where
  /-- The text under the key that stands for the mapping's own value. -/
  entriesText? : List (Node × Node) → Option (List Char)
    | [] => none
    | (.scalar .value _, v) :: _ => v.text?
    | _ :: rest => entriesText? rest

/-- An entry of a mapping, its key and value made; a key that is a collection is a fault. -/
structure EntryOutcome where
  key : Outcome
  value : Outcome
  keyFault : Option Fault

/-- The first fault of entries at the depth of their mapping. -/
def entriesFault : List EntryOutcome → Option Fault
  | [] => none
  | e :: rest => (e.key.own.or e.keyFault).or (e.value.own.or (entriesFault rest))

/-- A map with entries, of which a later one with the same key replaces the value of an earlier
one. -/
def mapOf (entries : List EntryOutcome) : Outcome :=
  .ofParts
    (.map (entries.foldl (fun m e => Value.putEntry e.key.value e.value.value m) []))
    (entriesFault entries) (entries.map (·.value))

/-- A set with the keys of entries. -/
def setOf (entries : List EntryOutcome) : Outcome :=
  .ofParts
    (.set ((entries.foldl (fun m e => Value.putEntry e.key.value .null m) []).map (·.1)))
    (entriesFault entries) (entries.map (·.value))

/-- The value of a mapping that stands for a scalar with the text of its own value. A moment is
sought in what stands there, and a mapping is no text. -/
def readMapped (tag : Tag) (text : List Char) : Except Fault Value :=
  if tag = .timestamp then .error (.scalar .notText) else readScalar tag text

/-- Whether a node is a collection by its tag. -/
def Node.isCollection : Node → Bool
  | .scalar tag _ | .sequence tag _ | .mapping tag _ =>
    tag = .seq || tag = .map || tag = .omap || tag = .pairs || tag = .set
  | .enclosing _ _ => true

/-- Whether a node is the key whose value is merged. -/
def Node.isMerge : Node → Bool
  | .scalar tag _ | .sequence tag _ | .mapping tag _ => tag = .merge
  | .enclosing _ _ => false

mutual

/-- The value of a node. -/
def Node.outcome : Node → Outcome
  | .enclosing isMapping levels => ⟨.enclosing isMapping levels, [none]⟩
  | .scalar tag text =>
    if tag = .seq || tag = .map || tag = .omap || tag = .pairs || tag = .set then .misfit
    else .ofScalar (readScalar tag text)
  | .sequence tag items =>
    match tag with
    | .seq => let parts := itemOutcomes items
      .ofParts (.list (parts.map (·.value))) (parts.findSome? Outcome.own) parts
    | .omap | .pairs =>
      let (pairs, fault) := pairOutcomes items
      .ofParts (.list (pairs.map fun p => .tuple [p.1.value, p.2.value])) fault
        (pairs.flatMap fun p => [p.1, p.2])
    | .map | .set => .misfit
    | _ => ⟨.null, [some .malformed]⟩
  | .mapping tag entries =>
    match tag with
    | .map =>
      match mergedEntries entries with
      | some (merged, own) => mapOf (merged ++ own)
      | none => .misfit
    | .set =>
      match mergedEntries entries with
      | some (merged, own) => setOf (merged ++ own)
      | none => .misfit
    | .seq | .omap | .pairs => .misfit
    | tag =>
      match Node.text?.entriesText? entries with
      | some text => .ofScalar (readMapped tag text)
      | none => ⟨.null, [some .malformed]⟩

/-- The values of nodes. -/
def itemOutcomes : List Node → List Outcome
  | [] => []
  | item :: rest => item.outcome :: itemOutcomes rest

/-- The pairs of an ordered map, each a mapping of one entry, up to the first fault. -/
def pairOutcomes : List Node → List (Outcome × Outcome) × Option Fault
  | [] => ([], none)
  | .mapping _ [(key, value)] :: rest =>
    let k := key.outcome
    let v := value.outcome
    match k.own.or v.own with
    | some fault => ([], some fault)
    | none =>
      let (pairs, fault) := pairOutcomes rest
      ((k, v) :: pairs, fault)
  | _ :: _ => ([], some .malformed)

/-- The entries of a mapping, those that are merged in apart from its own. -/
def mergedEntries : List (Node × Node) → Option (List EntryOutcome × List EntryOutcome)
  | [] => some ([], [])
  | (key, value) :: rest =>
    match mergedEntries rest with
    | none => none
    | some (merged, own) =>
      if key.isMerge then (mergeSource value).map fun more => (more ++ merged, own)
      else
        let k := match key with
          | .scalar .value text => .ofScalar (.ok (.text (String.ofList text)))
          | key => key.outcome
        let fault := if key.isCollection then some Fault.malformed else none
        some (merged, ⟨k, value.outcome, fault⟩ :: own)

/-- The entries that a merge brings in: those of a mapping, or of several, of which an earlier one
wins. A merge of a mapping that it stands in brings in nothing. -/
def mergeSource : Node → Option (List EntryOutcome)
  | .mapping _ entries => (mergedEntries entries).map fun (merged, own) => merged ++ own
  | .sequence _ items => mergeSources items
  | .enclosing isMapping _ => if isMapping then some [] else none
  | .scalar _ _ => none

/-- The entries of several mappings, those of a later one first. -/
def mergeSources : List Node → Option (List EntryOutcome)
  | [] => some []
  | .mapping _ entries :: rest =>
    match mergedEntries entries, mergeSources rest with
    | some (merged, own), some later => some (later ++ (merged ++ own))
    | _, _ => none
  | .enclosing true _ :: rest => mergeSources rest
  | _ :: _ => none

end

/-- What makes values of texts: the value of the only document of a text, or the fault for which
there is none. -/
abbrev Loader := List Char → Except Fault Value

/-- The value of the only document of a text; null where there is none. -/
def load : Loader := fun text => do
  match ← Node.ofTokens (Token.ofText text) with
  | some node => node.outcome.result
  | none => return .null

end RoleGrants.Yaml
