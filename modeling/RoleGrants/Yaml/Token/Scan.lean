import RoleGrants.Yaml.Token.Plain
import RoleGrants.Yaml.Token.Block
import RoleGrants.Yaml.Token.Property

/-!
# Splitting a text into tokens

Two things are known only later than they are needed. That a token begins a key is known when a
colon follows it on the same line; so the place of each token that may begin a key is remembered,
one for every level of brackets, and the tokens that open the key are put there afterwards. That a
block collection ends is known from the indentation of the line that follows it.
-/

namespace RoleGrants.Yaml

/-- A token that may turn out to begin a key: how many tokens stand in front of it, whether it has
to begin one because it stands at the indentation of a mapping, and where it is. -/
structure PossibleKey where
  tokens : Nat
  required : Bool
  index : Nat
  line : Nat
  column : Nat
  deriving Repr

/-- The state of the split. -/
structure Scanner where
  cursor : Cursor
  /-- The tokens so far, the last one first. -/
  emitted : List Token
  /-- How many brackets are open. -/
  flow : Nat
  indent : Int
  /-- The indentations of the enclosing blocks, the innermost first. -/
  outer : List Int
  /-- Whether a key may begin here. -/
  keyAllowed : Bool
  /-- The possible keys by the number of open brackets. -/
  possible : List (Nat × PossibleKey)
  deriving Repr

namespace Scanner

/-- The start of a text. -/
def start (text : List Char) : Scanner := ⟨.start text, [], 0, -1, [], true, []⟩

/-- Adds a token. -/
def emit (t : Token) (s : Scanner) : Scanner := { s with emitted := t :: s.emitted }

/-- Puts tokens behind the first `n`. -/
def insertAt (n : Nat) (tokens : List Token) (s : Scanner) : Scanner :=
  let behind := s.emitted.length - n
  { s with emitted := s.emitted.take behind ++ tokens.reverse ++ s.emitted.drop behind }

/-- Whether brackets are open. -/
def inFlow (s : Scanner) : Bool := s.flow != 0

/-! ## Indentation -/

/-- Closes the blocks that are indented further than a column. -/
def unwindTo (column : Int) : List Int → Scanner → Scanner
  | [], s => s
  | outer :: rest, s =>
    if column < s.indent then
      unwindTo column rest (({ s with indent := outer, outer := rest } : Scanner).emit .blockEnd)
    else s

/-- Closes blocks in front of a column; inside brackets indentation has no meaning. -/
def unwind (column : Int) (s : Scanner) : Scanner :=
  if s.inFlow then s else unwindTo column s.outer s

/-- Opens a block at a column that is indented further, if it is. -/
def addIndent (column : Nat) (s : Scanner) : Bool × Scanner :=
  if s.indent < column then
    (true, { s with indent := column, outer := s.indent :: s.outer })
  else (false, s)

/-! ## Possible keys -/

/-- Whether a possible key lies on another line or too far back. -/
def isStale (s : Scanner) (k : PossibleKey) : Bool :=
  k.line != s.cursor.line || 1024 < s.cursor.index - k.index

/-- Forgets the possible keys that lie on another line or too far back. -/
def dropStale (s : Scanner) : Except Fault Scanner :=
  if s.possible.any fun k => s.isStale k.2 && k.2.required then .error .malformed
  else .ok { s with possible := s.possible.filter fun k => !s.isStale k.2 }

/-- Forgets the possible key of the innermost brackets. -/
def dropPossible (s : Scanner) : Except Fault Scanner :=
  match s.possible.lookup s.flow with
  | some k =>
    if k.required then .error .malformed
    else .ok { s with possible := s.possible.filter fun k => k.1 != s.flow }
  | none => .ok s

/-- Remembers that the next token may begin a key. -/
def savePossible (s : Scanner) : Except Fault Scanner :=
  if !s.keyAllowed then .ok s
  else do
    let required := !s.inFlow && s.indent == s.cursor.column
    let s ← s.dropPossible
    let k : PossibleKey :=
      ⟨s.emitted.length, required, s.cursor.index, s.cursor.line, s.cursor.column⟩
    return { s with possible := (s.flow, k) :: s.possible }

/-! ## Blanks between tokens -/

/-- Moves to the next token, over spaces, comments and line breaks. Behind a line break outside
brackets a key may begin. -/
def toToken : Nat → Scanner → Scanner
  | 0, s => s
  | fuel + 1, s =>
    let c := s.cursor.skipSpaces.skipComment
    match c.lineBreak? with
    | none => { s with cursor := c }
    | some (_, c) => toToken fuel { s with cursor := c, keyAllowed := s.keyAllowed || !s.inFlow }

/-! ## Tokens -/

/-- A token of one character that begins nothing and ends no key. -/
def single (t : Token) (width : Nat) (s : Scanner) : Scanner :=
  ({ s with cursor := s.cursor.advanceBy width } : Scanner).emit t

/-- A document marker closes all blocks. -/
def fetchMarker (t : Token) (s : Scanner) : Except Fault Scanner := do
  let s ← (s.unwind (-1)).dropPossible
  return ({ s with keyAllowed := false } : Scanner).single t 3

/-- A directive closes all blocks. -/
def fetchDirective (s : Scanner) : Except Fault Scanner := do
  let s ← (s.unwind (-1)).dropPossible
  let (t, c) ← scanDirective s.cursor
  return ({ s with cursor := c, keyAllowed := false } : Scanner).emit t

/-- An opening bracket, which may itself begin a key. -/
def fetchFlowStart (t : Token) (s : Scanner) : Except Fault Scanner := do
  let s ← s.savePossible
  return ({ s with flow := s.flow + 1, keyAllowed := true } : Scanner).single t 1

/-- A closing bracket. -/
def fetchFlowEnd (t : Token) (s : Scanner) : Except Fault Scanner := do
  let s ← s.dropPossible
  if s.flow = 0 then throw .malformed
  return ({ s with flow := s.flow - 1, keyAllowed := false } : Scanner).single t 1

/-- A comma between brackets. -/
def fetchFlowEntry (s : Scanner) : Except Fault Scanner := do
  let s ← s.dropPossible
  return ({ s with keyAllowed := true } : Scanner).single .flowEntry 1

/-- Opens a block in front of an indicator, which must be where a key may begin. -/
def openBlock (t : Token) (s : Scanner) : Except Fault Scanner :=
  if s.inFlow then .ok s
  else if !s.keyAllowed then .error .malformed
  else
    let (opened, s') := s.addIndent s.cursor.column
    .ok (if opened then s'.emit t else s')

/-- A dash in front of an entry. -/
def fetchBlockEntry (s : Scanner) : Except Fault Scanner := do
  let s ← s.openBlock .blockSequenceStart
  let s ← ({ s with keyAllowed := true } : Scanner).dropPossible
  return s.single .blockEntry 1

/-- A question mark in front of a key. -/
def fetchKey (s : Scanner) : Except Fault Scanner := do
  let s ← s.openBlock .blockMappingStart
  let s ← ({ s with keyAllowed := !s.inFlow } : Scanner).dropPossible
  return s.single .key 1

/-- A colon. Where a possible key is remembered, the tokens that open the key are put in front of
it. -/
def fetchValue (s : Scanner) : Except Fault Scanner :=
  match s.possible.lookup s.flow with
  | some k =>
    let s := { s with possible := s.possible.filter fun k => k.1 != s.flow }
    let (opened, s) := if s.inFlow then (false, s) else s.addIndent k.column
    let s := s.insertAt k.tokens (if opened then [.blockMappingStart, .key] else [.key])
    .ok (({ s with keyAllowed := false } : Scanner).single .value 1)
  | none => do
    let s ← s.openBlock .blockMappingStart
    let s ← ({ s with keyAllowed := !s.inFlow } : Scanner).dropPossible
    return s.single .value 1

/-- A token that may begin a key and behind which none may begin. -/
def fetchKeyable (scan : Cursor → Except Fault (Token × Cursor)) (s : Scanner) :
    Except Fault Scanner := do
  let s ← s.savePossible
  let (t, c) ← scan s.cursor
  return ({ s with cursor := c, keyAllowed := false } : Scanner).emit t

/-- A plain scalar; behind a line break in it a key may begin. -/
def fetchPlain (s : Scanner) : Except Fault Scanner := do
  let s ← s.savePossible
  let (t, lineBroken, c) := scanPlain s.inFlow s.indent s.cursor
  return ({ s with cursor := c, keyAllowed := lineBroken } : Scanner).emit t

/-- A block scalar, behind which a line begins. -/
def fetchBlock (s : Scanner) : Except Fault Scanner := do
  let s ← ({ s with keyAllowed := true } : Scanner).dropPossible
  let (t, c) ← scanBlock s.indent s.cursor
  return ({ s with cursor := c } : Scanner).emit t

/-- Whether an indicator stands here: inside brackets always, elsewhere with room behind it. -/
def atIndicator (s : Scanner) : Bool := s.inFlow || isGap (s.cursor.peekAt 1)

/-- Moves to the next token and closes the blocks that end in front of it. -/
def settle (s : Scanner) : Except Fault Scanner := do
  let s ← (s.toToken (s.cursor.rest.length + 1)).dropStale
  return s.unwind s.cursor.column

/-- The token at the cursor. The flag says whether it was the last one. -/
def dispatch (s : Scanner) : Except Fault (Bool × Scanner) := do
  let c := s.cursor
  let ch := c.peek
  let goOn := fun (next : Except Fault Scanner) => next.map (false, ·)
  if ch = endMark then
    let s ← (s.unwind (-1)).dropPossible
    return (true, s.emit .streamEnd)
  else if ch = '%' && c.column = 0 then goOn s.fetchDirective
  else if c.column = 0 && c.atSeparator then
    goOn (s.fetchMarker (if ch = '-' then .documentStart else .documentEnd))
  else if ch = '[' then goOn (s.fetchFlowStart .flowSequenceStart)
  else if ch = '\x7b' then goOn (s.fetchFlowStart .flowMappingStart)
  else if ch = ']' then goOn (s.fetchFlowEnd .flowSequenceEnd)
  else if ch = '\x7d' then goOn (s.fetchFlowEnd .flowMappingEnd)
  else if ch = ',' then goOn s.fetchFlowEntry
  else if ch = '-' && isGap (c.peekAt 1) then goOn s.fetchBlockEntry
  else if ch = '?' && s.atIndicator then goOn s.fetchKey
  else if ch = ':' && s.atIndicator then goOn s.fetchValue
  else if ch = '*' then
    goOn (s.fetchKeyable fun c => (scanName c).map fun (name, c) => (.alias name, c))
  else if ch = '&' then
    goOn (s.fetchKeyable fun c => (scanName c).map fun (name, c) => (.anchor name, c))
  else if ch = '!' then goOn (s.fetchKeyable scanTag)
  else if (ch = '|' || ch = '>') && !s.inFlow then goOn s.fetchBlock
  else if ch = '\'' || ch = '"' then goOn (s.fetchKeyable scanQuoted)
  else if startsPlain s.inFlow c then goOn s.fetchPlain
  else throw .malformed

/-- The next token. -/
def fetch (s : Scanner) : Except Fault (Bool × Scanner) := do
  let s ← s.settle
  s.dispatch

/-- The tokens that were given away, in order: all in front of the first that may still turn out to
begin a key. -/
def given (s : Scanner) : List Token :=
  let pending := s.possible.filter fun k => !s.isStale k.2
  s.emitted.reverse.take ((pending.map (·.2.tokens)).foldl min s.emitted.length)

/-- The tokens up to the end or to the first fault, in order. A fault hides the tokens that were not
given away before it was met. -/
def run : Nat → Scanner → List Token
  | 0, s => s.given ++ [.broken .malformed]
  | fuel + 1, s =>
    match s.fetch with
    | .ok (true, s) => s.emitted.reverse
    | .ok (false, s) => run fuel s
    | .error fault => s.given ++ [.broken fault]

end Scanner

/-- Whether a character may stand in a YAML text. -/
def isAllowed (c : Char) : Bool :=
  let n := c.toNat
  n = 0x09 || n = 0x0A || n = 0x0D || (0x20 ≤ n && n ≤ 0x7E) || n = 0x85
    || (0xA0 ≤ n && n ≤ 0xD7FF) || (0xE000 ≤ n && n ≤ 0xFFFD) || 0x10000 ≤ n

/-- The tokens of a text. A byte order mark at its start is passed over. -/
def Token.ofText (text : List Char) : List Token :=
  if !text.all isAllowed then [.broken .malformed]
  else
    let s := Scanner.start text
    let s := if text.head? = some byteOrderMark then { s with cursor := s.cursor.advance } else s
    s.run (text.length + 2)

end RoleGrants.Yaml
