import RoleGrants.Yaml.Token
import RoleGrants.Yaml.Tag

/-!
# Nodes

The tree of a document: scalars, sequences and mappings, each with its tag. Aliases are replaced by
the nodes they name; an alias inside the very node it names becomes `enclosing`.

`Node.ofTokens` reads the tree from the tokens, by recursive descent. A text holds one document at
most.
-/

namespace RoleGrants.Yaml

/-- The tree of a document. -/
inductive Node where
  | scalar (tag : Tag) (text : List Char)
  | sequence (tag : Tag) (items : List Node)
  | mapping (tag : Tag) (entries : List (Node × Node))
  /-- The collection that lies the given number of levels above the one this stands in. -/
  | enclosing (isMapping : Bool) (levels : Nat)
  deriving Repr

/-- The scalar that stands where nothing was written. -/
def Node.missing : Node := .scalar .null []

/-- What an anchor names: a node that is read, or a collection that is being read, by the number
of collections around it. -/
inductive Anchored where
  | done (node : Node)
  | open (isMapping : Bool) (depth : Nat)
  deriving Repr

/-- The state of the descent. -/
structure Reading where
  tokens : List Token
  anchors : List (List Char × Anchored)
  handles : List (List Char × List Char)
  deriving Repr

namespace Reading

/-- The next token. -/
def next (r : Reading) : Token := r.tokens.headD (.broken .malformed)

/-- Moves over a token. -/
def drop (r : Reading) : Reading := { r with tokens := r.tokens.tail }

/-- Looks at the next token, which is not there if the split has stopped in front of it. -/
def look (r : Reading) : Except Fault Token :=
  match r.next with
  | .broken fault => .error fault
  | t => .ok t

/-- The fault with which a reading ends that does not expect the next token. -/
def unexpected {α : Type} (r : Reading) : Except Fault α := do
  let _ ← r.look
  throw .malformed

/-- Whether an anchor is given that names something already. -/
def isTaken (r : Reading) : Option (List Char) → Bool
  | some a => (r.anchors.lookup a).isSome
  | none => false

/-- Names a node. -/
def name (anchor : Option (List Char)) (what : Anchored) (r : Reading) : Reading :=
  match anchor with
  | some a => { r with anchors := (a, what) :: r.anchors }
  | none => r

end Reading

/-- The handles that every document knows. -/
def defaultHandles : List (List Char × List Char) :=
  [(['!'], ['!']), (['!', '!'], tagNamespace)]

/-- An anchor and a tag, in either order; a tag is given by its identifier. What is behind the first
of them is looked at before the handle of a tag is looked up. -/
def properties (r : Reading) :
    Except Fault (Option (List Char) × Option (List Char) × Reading) := do
  let (anchor, tag, r) ← match r.next with
    | .anchor a => do
      match ← r.drop.look with
      | .tag handle suffix => pure (some a, some (handle, suffix), r.drop.drop)
      | _ => pure (some a, none, r.drop)
    | .tag handle suffix => do
      match ← r.drop.look with
      | .anchor a => pure (some a, some (handle, suffix), r.drop.drop)
      | _ => pure (none, some (handle, suffix), r.drop)
    | _ => pure (none, none, r)
  match tag with
  | none => return (anchor, none, r)
  | some (none, suffix) => return (anchor, some suffix, r)
  | some (some handle, suffix) =>
    match r.handles.lookup handle with
    | some expansion => return (anchor, some (expansion ++ suffix), r)
    | none => throw .malformed

/-- The tag of a scalar: its own, or what its form gives a plain one. A lone exclamation mark asks
for the form even behind quotes. -/
def scalarTag (tag : Option (List Char)) (plain : Bool) (text : List Char) : Tag :=
  match tag with
  | some ['!'] => .ofPlain text
  | some uri => .ofUri uri
  | none => if plain then .ofPlain text else .str

/-- The tag of a collection. -/
def collectionTag (tag : Option (List Char)) (default : Tag) : Tag :=
  match tag with
  | some ['!'] => default
  | some uri => .ofUri uri
  | none => default

mutual

/-- A node. Block collections may begin only where `block` says so, and a sequence without
indentation of its own only where `indentless` does. The depth counts the collections around it. An
anchor that is taken is refused once it is known that a node begins, and before what is in it. -/
def readNode (block indentless : Bool) (depth : Nat) :
    Nat → Reading → Except Fault (Node × Reading)
  | 0, _ => .error .malformed
  | fuel + 1, r =>
    match r.next with
    | .alias a =>
      match r.anchors.lookup a with
      | some (.done node) => .ok (node, r.drop)
      | some (.open isMapping d) => .ok (.enclosing isMapping (depth - 1 - d), r.drop)
      | none => .error .malformed
    | _ => do
      let (anchor, tag, r) ← properties r
      let t ← r.look
      if r.isTaken anchor then throw .malformed
      let begun := fun (isMapping : Bool) (r : Reading) => r.name anchor (.open isMapping depth)
      let finish := fun (node : Node) (r : Reading) =>
        (pure (node, r.name anchor (.done node)) : Except Fault (Node × Reading))
      match t with
      | .scalar text plain => finish (.scalar (scalarTag tag plain text) text) r.drop
      | .flowSequenceStart => do
        let (items, r) ← readFlowItems true (depth + 1) fuel (begun false r.drop)
        finish (.sequence (collectionTag tag .seq) items) r
      | .flowMappingStart => do
        let (entries, r) ← readFlowEntries true (depth + 1) fuel (begun true r.drop)
        finish (.mapping (collectionTag tag .map) entries) r
      | t => do
        if indentless && t = .blockEntry then
          let (items, r) ← readItems true (depth + 1) fuel (begun false r)
          finish (.sequence (collectionTag tag .seq) items) r
        else if block && t = .blockSequenceStart then
          let (items, r) ← readItems false (depth + 1) fuel (begun false r.drop)
          finish (.sequence (collectionTag tag .seq) items) r
        else if block && t = .blockMappingStart then
          let (entries, r) ← readEntries (depth + 1) fuel (begun true r.drop)
          finish (.mapping (collectionTag tag .map) entries) r
        else if anchor.isSome || tag.isSome then
          finish (.scalar (scalarTag tag (tag.isNone) []) []) r
        else throw .malformed
termination_by structural fuel => fuel

/-- The items of a block sequence. One without indentation of its own ends in front of the token
that does not belong to it. -/
def readItems (indentless : Bool) (depth : Nat) :
    Nat → Reading → Except Fault (List Node × Reading)
  | 0, _ => .error .malformed
  | fuel + 1, r =>
    match r.next with
    | .blockEntry => do
      let r := r.drop
      let isEmpty := match r.next with
        | .blockEntry | .blockEnd => true
        | .key | .value => indentless
        | _ => false
      let (item, r) ← if isEmpty then .ok (Node.missing, r) else readNode true false depth fuel r
      let (items, r) ← readItems indentless depth fuel r
      return (item :: items, r)
    | .blockEnd => .ok ([], if indentless then r else r.drop)
    | _ => if indentless then .ok ([], r) else r.unexpected
termination_by structural fuel => fuel

/-- The entries of a block mapping. -/
def readEntries (depth : Nat) : Nat → Reading → Except Fault (List (Node × Node) × Reading)
  | 0, _ => .error .malformed
  | fuel + 1, r =>
    match r.next with
    | .key => do
      let (key, r) ← readPart depth fuel r.drop
      let (value, r) ← match r.next with
        | .value => readPart depth fuel r.drop
        | _ => .ok (Node.missing, r)
      let (entries, r) ← readEntries depth fuel r
      return ((key, value) :: entries, r)
    | .blockEnd => .ok ([], r.drop)
    | _ => r.unexpected
termination_by structural fuel => fuel

/-- A key or a value of a block mapping, which may be missing. -/
def readPart (depth : Nat) : Nat → Reading → Except Fault (Node × Reading)
  | 0, _ => .error .malformed
  | fuel + 1, r =>
    match r.next with
    | .key | .value | .blockEnd => .ok (Node.missing, r)
    | _ => readNode true true depth fuel r
termination_by structural fuel => fuel

/-- The items of a sequence in brackets. A key inside makes a mapping of one entry. -/
def readFlowItems (first : Bool) (depth : Nat) :
    Nat → Reading → Except Fault (List Node × Reading)
  | 0, _ => .error .malformed
  | fuel + 1, r =>
    match r.next with
    | .flowSequenceEnd => .ok ([], r.drop)
    | t => do
      let r ← if first then pure r else if t = .flowEntry then pure r.drop else r.unexpected
      match r.next with
      | .flowSequenceEnd => return ([], r.drop)
      | .key => do
        let (key, r) ← readFlowPart (depth + 1) fuel r.drop
        let (value, r) ← match r.next with
          | .value => readFlowPart (depth + 1) fuel r.drop
          | _ => .ok (Node.missing, r)
        let (items, r) ← readFlowItems false depth fuel r
        return (.mapping .map [(key, value)] :: items, r)
      | _ => do
        let (item, r) ← readNode false false depth fuel r
        let (items, r) ← readFlowItems false depth fuel r
        return (item :: items, r)
termination_by structural fuel => fuel

/-- The entries of a mapping in braces. A key may stand without a value. -/
def readFlowEntries (first : Bool) (depth : Nat) :
    Nat → Reading → Except Fault (List (Node × Node) × Reading)
  | 0, _ => .error .malformed
  | fuel + 1, r =>
    match r.next with
    | .flowMappingEnd => .ok ([], r.drop)
    | t => do
      let r ← if first then pure r else if t = .flowEntry then pure r.drop else r.unexpected
      match r.next with
      | .flowMappingEnd => return ([], r.drop)
      | .key => do
        let (key, r) ← readFlowPart depth fuel r.drop
        let (value, r) ← match r.next with
          | .value => readFlowPart depth fuel r.drop
          | _ => .ok (Node.missing, r)
        let (entries, r) ← readFlowEntries false depth fuel r
        return ((key, value) :: entries, r)
      | _ => do
        let (key, r) ← readNode false false depth fuel r
        let (entries, r) ← readFlowEntries false depth fuel r
        return ((key, Node.missing) :: entries, r)
termination_by structural fuel => fuel

/-- A key or a value between brackets, which may be missing. -/
def readFlowPart (depth : Nat) : Nat → Reading → Except Fault (Node × Reading)
  | 0, _ => .error .malformed
  | fuel + 1, r =>
    match r.next with
    | .value | .flowEntry | .flowSequenceEnd | .flowMappingEnd => .ok (Node.missing, r)
    | _ => readNode false false depth fuel r
termination_by structural fuel => fuel

end

/-! ## Documents -/

/-- The directives in front of a document. A handle has one meaning, and a text of another major
version cannot be read. -/
def readDirectives (versioned : Bool) (handles : List (List Char × List Char)) :
    List Token → Except Fault (List (List Char × List Char) × List Token)
  | .version major _ :: rest =>
    if versioned || major ≠ 1 then .error .malformed else readDirectives true handles rest
  | .tagHandle handle expansion :: rest =>
    if (handles.lookup handle).isSome then .error .malformed
    else readDirectives versioned ((handle, expansion) :: handles) rest
  | .ignoredDirective :: rest => readDirectives versioned handles rest
  | rest => .ok (handles ++ defaultHandles, rest)

/-- The document behind a start marker: nothing, or a node. -/
def readContent (fuel : Nat) (r : Reading) : Except Fault (Node × Reading) :=
  match r.next with
  | .version _ _ | .tagHandle _ _ | .ignoredDirective | .documentStart | .documentEnd
  | .streamEnd => .ok (Node.missing, r)
  | _ => readNode true false 0 fuel r

/-- Whether nothing but document ends stands before the end of a text. -/
def atStreamEnd : List Token → Except Fault Bool
  | .documentEnd :: rest => atStreamEnd rest
  | .streamEnd :: _ => .ok true
  | .broken fault :: _ => .error fault
  | _ => .ok false

/-- The tree of the only document, or none where there is no document. -/
def Node.ofTokens (tokens : List Token) : Except Fault (Option Node) := do
  let fuel := 4 * tokens.length + 4
  match tokens with
  | .streamEnd :: _ => return none
  | t :: _ =>
    let isExplicit := match t with
      | .version _ _ | .tagHandle _ _ | .ignoredDirective | .documentStart => true
      | _ => false
    let (handles, tokens) ←
      if isExplicit then readDirectives false [] tokens else .ok (defaultHandles, tokens)
    let r : Reading := ⟨tokens, [], handles⟩
    let (node, r) ←
      if isExplicit then
        match r.next with
        | .documentStart => readContent fuel r.drop
        | _ => r.unexpected
      else readNode true false 0 fuel r
    if ← atStreamEnd r.tokens then return some node else throw .malformed
  | [] => throw .malformed

end RoleGrants.Yaml
