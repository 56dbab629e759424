import RoleGrants.Yaml.Document

/-!
# Streams of documents

A text may hold several documents. Only the first may begin without a marker, and end marks may
stand between them. Each has its own anchors and tag handles. The value of a document is made
before the next document is read, so its faults count first.
-/

namespace RoleGrants.Yaml

/-- The tree of a document that begins with directives or a marker, and the reading behind it. -/
def explicitDocument (tokens : List Token) : Except Fault (Node × Reading) := do
  let (handles, rest) ← readDirectives false [] tokens
  let r : Reading := ⟨rest, [], handles⟩
  match r.next with
  | .documentStart => readContent (4 * tokens.length + 4) r.drop
  | _ => r.unexpected

/-- The tree of the first document of a text, and the reading behind it. -/
def firstDocument (tokens : List Token) : Except Fault (Node × Reading) :=
  match tokens.head? with
  | some (.version _ _) | some (.tagHandle _ _) | some .ignoredDirective | some .documentStart =>
    explicitDocument tokens
  | _ => readNode true false 0 (4 * tokens.length + 4) ⟨tokens, [], defaultHandles⟩

/-- The value of a document. Whether the text goes on in a sensible way is looked at first. -/
def documentValue (node : Node) (r : Reading) : Except Fault Value :=
  match r.next with
  | .broken fault => .error fault
  | _ => node.outcome.result

/-- The values of the documents behind the first one. The first argument bounds their number. -/
def laterValues : Nat → List Token → Except Fault (List Value)
  | 0, _ => .error .malformed
  | n + 1, tokens =>
    match tokens.dropWhile (· = .documentEnd) with
    | .streamEnd :: _ => .ok []
    | tokens => do
      let (node, r) ← explicitDocument tokens
      let value ← documentValue node r
      let values ← laterValues n r.tokens
      return value :: values

/-- The values of the documents that tokens make. -/
def valuesOfTokens : List Token → Except Fault (List Value)
  | .streamEnd :: _ => .ok []
  | tokens => do
    let (node, r) ← firstDocument tokens
    let value ← documentValue node r
    let values ← laterValues (tokens.length + 1) r.tokens
    return value :: values

/-- The values of the documents of a text, in order. -/
def loadAll (text : List Char) : Except Fault (List Value) := valuesOfTokens (Token.ofText text)

end RoleGrants.Yaml
