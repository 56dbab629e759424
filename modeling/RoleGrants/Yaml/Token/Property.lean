import RoleGrants.Yaml.Token.Quoted
import RoleGrants.Text.Utf8

/-!
# Anchors, aliases, tags and directives
-/

namespace RoleGrants.Yaml

open RoleGrants.Number RoleGrants.Text

/-- Whether a character may stand in a name. -/
def isNameChar (c : Char) : Bool :=
  isDigit c || ('a' ≤ c && c ≤ 'z') || ('A' ≤ c && c ≤ 'Z') || c = '-' || c = '_'

/-- The name behind the sign of an anchor or an alias. -/
def scanName (c : Cursor) : Except Fault (List Char × Cursor) :=
  let (name, c) := c.advance.span isNameChar
  let closing := ['?', ':', ',', ']', '\x7d', '%', '@', '\x60']
  if name.isEmpty || !(isGap c.peek || closing.contains c.peek) then .error .malformed
  else .ok (name, c)

/-! ## Tags -/

/-- Whether a character may stand in the identifier of a tag. -/
def isUriChar (c : Char) : Bool :=
  isNameChar c || [';', '/', '?', ':', '@', '&', '=', '+', '$', ',', '.', '!', '~', '*', '\'',
    '(', ')', '[', ']', '%'].contains c

/-- The bytes of consecutive percent escapes, and the text behind them. -/
def percentBytes : List Char → Option (List UInt8 × List Char)
  | '%' :: a :: b :: rest =>
    if isHexDigit a && isHexDigit b then
      (percentBytes rest).map fun (bytes, rest) => (UInt8.ofNat (hexValue [a, b]) :: bytes, rest)
    else none
  | '%' :: _ => none
  | rest => some ([], rest)

/-- The text that the identifier of a tag stands for. -/
def uriText : Nat → List Char → Option (List Char)
  | 0, _ => none
  | _ + 1, [] => some []
  | fuel + 1, c :: rest =>
    if c = '%' then
      match percentBytes (c :: rest) with
      | some (bytes, rest) =>
        match decodeUtf8 bytes with
        | .ok text => (uriText fuel rest).map (text ++ ·)
        | .error _ => none
      | none => none
    else (uriText fuel rest).map (c :: ·)

/-- The identifier of a tag. -/
def scanUri (c : Cursor) : Except Fault (List Char × Cursor) :=
  let (uri, c) := c.span isUriChar
  match uriText (uri.length + 1) uri with
  | some text => if uri.isEmpty then .error .malformed else .ok (text, c)
  | none => .error .malformed

/-- A tag handle: one exclamation mark, or a name between two. -/
def scanHandle (c : Cursor) : Except Fault (List Char × Cursor) :=
  if c.peek ≠ '!' then .error .malformed
  else
    let behind := c.advance
    if behind.peek = ' ' then .ok (['!'], behind)
    else
      let (name, behind) := behind.span isNameChar
      if behind.peek = '!' then .ok ('!' :: name ++ ['!'], behind.advance) else .error .malformed

/-- A tag, the cursor standing on its exclamation mark. -/
def scanTag (c : Cursor) : Except Fault (Token × Cursor) := do
  let next := c.peekAt 1
  let (handle, suffix, c) ←
    if next = '<' then do
      let (uri, c) ← scanUri (c.advanceBy 2)
      if c.peek ≠ '>' then throw Fault.malformed
      pure (none, uri, c.advance)
    else if isGap next then pure (none, ['!'], c.advance)
    else do
      let word := (c.rest.drop 1).takeWhile fun ch => !isSpaceOrEnd ch
      let (handle, c) ← if word.contains '!' then scanHandle c else pure (['!'], c.advance)
      let (suffix, c) ← scanUri c
      pure (some handle, suffix, c)
  if !isSpaceOrEnd c.peek then throw .malformed
  return (.tag handle suffix, c)

/-! ## Directives -/

/-- A number inside a version. -/
def scanVersionPart (c : Cursor) : Except Fault (Nat × Cursor) :=
  let (digits, c) := c.span isDigit
  if digits.isEmpty then .error .malformed
  else if maxDigits < digits.length then .error (.scalar (.oversizedInteger digits.length))
  else .ok (naturalOf digits, c)

/-- The parameters of a directive. -/
def scanParameters (name : List Char) (c : Cursor) : Except Fault (Token × Cursor) := do
  if name = ['Y', 'A', 'M', 'L'] then
    let (major, c) ← scanVersionPart c.skipSpaces
    if c.peek ≠ '.' then throw .malformed
    let (minor, c) ← scanVersionPart c.advance
    if !isSpaceOrEnd c.peek then throw .malformed
    return (.version major minor, c)
  else if name = ['T', 'A', 'G'] then
    let (handle, c) ← scanHandle c.skipSpaces
    if c.peek ≠ ' ' then throw .malformed
    let (expansion, c) ← scanUri c.skipSpaces
    if !isSpaceOrEnd c.peek then throw .malformed
    return (.tagHandle handle expansion, c)
  else return (.ignoredDirective, c.skip fun ch => !isBreakOrEnd ch)

/-- A directive, the cursor standing on its percent sign, with its line break. -/
def scanDirective (c : Cursor) : Except Fault (Token × Cursor) := do
  let (name, c) := c.advance.span isNameChar
  if name.isEmpty || !isSpaceOrEnd c.peek then throw .malformed
  let (token, c) ← scanParameters name c
  let c := c.skipSpaces.skipComment
  if !isBreakOrEnd c.peek then throw .malformed
  match c.lineBreak? with
  | some (_, c) => return (token, c)
  | none => return (token, c)

end RoleGrants.Yaml
