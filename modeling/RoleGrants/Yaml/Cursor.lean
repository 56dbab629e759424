/-!
# Reading position

A cursor is the text that is left, with the place it begins at. Behind the end of the text lies an
endless run of null characters, which no document may hold, so looking ahead never fails.
-/

namespace RoleGrants.Yaml

/-- The character behind the end of a text. -/
def endMark : Char := '\x00'

/-- Whether a character breaks a line. -/
def isBreak (c : Char) : Bool :=
  c = '\n' || c = '\r' || c = '\x85' || c = '\u2028' || c = '\u2029'

/-- Whether a character breaks a line or lies behind the end. -/
def isBreakOrEnd (c : Char) : Bool := c = endMark || isBreak c

/-- Whether a line ends at a character or a space stands there. -/
def isSpaceOrEnd (c : Char) : Bool := c = ' ' || isBreakOrEnd c

/-- Whether a token that needs room behind it may end before a character. -/
def isGap (c : Char) : Bool := c = '\t' || isSpaceOrEnd c

/-- The byte order mark. -/
def byteOrderMark : Char := '\uFEFF'

/-- The text that is left and the place where it begins. -/
structure Cursor where
  rest : List Char
  index : Nat
  line : Nat
  column : Nat
  deriving Repr

namespace Cursor

/-- The start of a text. -/
def start (text : List Char) : Cursor := ⟨text, 0, 0, 0⟩

/-- The character at a distance. -/
def peekAt (c : Cursor) (n : Nat) : Char := c.rest.getD n endMark

/-- The next character. -/
def peek (c : Cursor) : Char := c.peekAt 0

/-- Moves over one character. A line ends behind each break, but not between the two characters of
a carriage return and a line feed; a byte order mark takes no column. -/
def advance (c : Cursor) : Cursor :=
  match c.rest with
  | [] => c
  | ch :: rest =>
    let breaks := ch ≠ '\r' && isBreak ch || ch = '\r' && rest.head? ≠ some '\n'
    { rest
      index := c.index + 1
      line := if breaks then c.line + 1 else c.line
      column := if breaks then 0 else if ch = byteOrderMark then c.column else c.column + 1 }

/-- Moves over several characters. -/
def advanceBy : Nat → Cursor → Cursor
  | 0, c => c
  | n + 1, c => advanceBy n c.advance

/-- The characters up to the first that fails a test. -/
def span (c : Cursor) (p : Char → Bool) : List Char × Cursor :=
  let taken := c.rest.takeWhile p
  (taken, c.advanceBy taken.length)

/-- Moves over characters as long as they pass a test. -/
def skip (c : Cursor) (p : Char → Bool) : Cursor := (c.span p).2

/-- Moves over spaces. -/
def skipSpaces (c : Cursor) : Cursor := c.skip (· = ' ')

/-- Moves over spaces as long as the column is below a bound. -/
def skipIndent (c : Cursor) (bound : Nat) : Cursor :=
  let spaces := (c.rest.takeWhile (· = ' ')).length
  c.advanceBy (min spaces (bound - c.column))

/-- A line break, if one is next. All breaks but the two Unicode separators read as a line feed. -/
def lineBreak? (c : Cursor) : Option (Char × Cursor) :=
  let ch := c.peek
  if !isBreak ch then none
  else if ch = '\r' && c.peekAt 1 = '\n' then some ('\n', c.advanceBy 2)
  else if ch = '\u2028' || ch = '\u2029' then some (ch, c.advance)
  else some ('\n', c.advance)

/-- Whether a line begins here that separates documents. -/
def atSeparator (c : Cursor) : Bool :=
  let three := c.rest.take 3
  (three = ['-', '-', '-'] || three = ['.', '.', '.']) && isGap (c.peekAt 3)

/-- Moves over a comment, if one is next. -/
def skipComment (c : Cursor) : Cursor :=
  if c.peek = '#' then c.skip (fun ch => !isBreakOrEnd ch) else c

end Cursor

end RoleGrants.Yaml
