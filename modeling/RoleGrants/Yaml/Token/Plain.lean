import RoleGrants.Yaml.Token.Quoted

/-!
# Plain scalars

Text without quotes. It ends at a comment, at a colon with room behind it, and inside brackets at
any bracket or comma. It may go on on the next line if that is indented further, and line breaks
are folded as they are in quotes.
-/

namespace RoleGrants.Yaml

/-- Whether a plain scalar may begin here. -/
def startsPlain (inFlow : Bool) (c : Cursor) : Bool :=
  let ch := c.peek
  let special := isGap ch || ['-', '?', ':', ',', '[', ']', '\x7b', '\x7d', '#', '&', '*', '!', '|',
    '>', '\'', '"', '%', '@', '\x60'].contains ch
  !special || (!isGap (c.peekAt 1) && (ch = '-' || (!inFlow && (ch = '?' || ch = ':'))))

/-- The characters that end a plain scalar inside brackets, and there also behind a colon. -/
def isFlowIndicator (ch : Char) : Bool :=
  ch = ',' || ch = '[' || ch = ']' || ch = '\x7b' || ch = '\x7d'

/-- The characters of a plain scalar up to a blank or its end. -/
def plainWord (inFlow : Bool) : List Char → List Char
  | [] => []
  | ch :: rest =>
    let next := rest.headD endMark
    if isGap ch then []
    else if ch = ':' && (isGap next || (inFlow && isFlowIndicator next)) then []
    else if inFlow && (ch = '?' || isFlowIndicator ch) then []
    else ch :: plainWord inFlow rest

/-- The blank lines after the first break, or none where a document separator follows. -/
def plainBreaks : Nat → Cursor → Option (List Char) × Cursor
  | 0, c => (some [], c)
  | fuel + 1, c =>
    let c := c.skipSpaces
    match c.lineBreak? with
    | none => (some [], c)
    | some (b, c) =>
      if c.atSeparator then (none, c)
      else
        let (breaks, c) := plainBreaks fuel c
        (breaks.map (b :: ·), c)

/-- What stands between two words of a plain scalar: the text it reads as, empty where the scalar
cannot go on, whether a line was broken, and the place behind it. -/
def plainGap (c : Cursor) : List Char × Bool × Cursor :=
  let (spaces, c) := c.span (· = ' ')
  match c.lineBreak? with
  | none => (spaces, false, c)
  | some (b, c) =>
    if c.atSeparator then ([], true, c)
    else
      match plainBreaks (c.rest.length + 1) c with
      | (none, c) => ([], true, c)
      | (some breaks, c) => (folded b breaks, true, c)

/-- The words of a plain scalar, whether the last thing read was a line break, and the place behind
it. The text of a gap is kept only when a word follows. -/
def plainText (inFlow : Bool) (indent : Int) (broken : Bool) (gap : List Char) :
    Nat → Cursor → List Char × Bool × Cursor
  | 0, c => ([], broken, c)
  | fuel + 1, c =>
    if c.peek = '#' then ([], broken, c)
    else
      match plainWord inFlow c.rest with
      | [] => ([], broken, c)
      | word =>
        let (next, lineBroken, c) := plainGap (c.advanceBy word.length)
        if next.isEmpty || c.peek = '#' || (!inFlow && (c.column : Int) < indent) then
          (gap ++ word, lineBroken, c)
        else
          let (more, lineBroken, c) := plainText inFlow indent lineBroken next fuel c
          (gap ++ word ++ more, lineBroken, c)

/-- A plain scalar inside a block of some indentation, and whether a line was broken behind it. -/
def scanPlain (inFlow : Bool) (indent : Int) (c : Cursor) : Token × Bool × Cursor :=
  let (text, lineBroken, c) := plainText inFlow (indent + 1) false [] (c.rest.length + 1) c
  (.scalar text true, lineBroken, c)

end RoleGrants.Yaml
