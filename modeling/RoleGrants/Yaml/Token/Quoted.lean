import RoleGrants.Yaml.Cursor
import RoleGrants.Yaml.Token

/-!
# Quoted scalars

Text between single or double quotes. A line break inside is folded: a single one reads as a space,
and of several the first is dropped. Double quotes allow escapes; single quotes only a quote that is
written twice.
-/

namespace RoleGrants.Yaml

open RoleGrants.Number

/-- The characters that single-letter escapes stand for. -/
def escapeLetters : List (Char × Char) :=
  [('0', '\x00'), ('a', '\x07'), ('b', '\x08'), ('t', '\t'), ('\t', '\t'), ('n', '\n'),
   ('v', '\x0B'), ('f', '\x0C'), ('r', '\r'), ('e', '\x1B'), (' ', ' '), ('"', '"'),
   ('\\', '\\'), ('/', '/'), ('N', '\x85'), ('_', '\xA0'), ('L', '\u2028'), ('P', '\u2029')]

/-- How many hexadecimal digits follow an escape letter. -/
def escapeWidth : Char → Option Nat
  | 'x' => some 2
  | 'u' => some 4
  | 'U' => some 8
  | _ => none

/-- Whether a character is a hexadecimal digit. -/
def isHexDigit (c : Char) : Bool :=
  isDigit c || ('a' ≤ c && c ≤ 'f') || ('A' ≤ c && c ≤ 'F')

/-- The number that hexadecimal digits spell. -/
def hexValue (s : List Char) : Nat :=
  s.foldl (fun acc c => acc * 16 + (digitValue c).getD 0) 0

/-- The blank lines and indentation after a break inside quotes. The first argument bounds the
number of lines. -/
def quotedBreaks : Nat → Cursor → Except Fault (List Char × Cursor)
  | 0, c => .ok ([], c)
  | fuel + 1, c =>
    if c.atSeparator then .error .malformed
    else
      let c := c.skip fun ch => ch = ' ' || ch = '\t'
      match c.lineBreak? with
      | none => .ok ([], c)
      | some (b, c) => do
        let (breaks, c) ← quotedBreaks fuel c
        return (b :: breaks, c)

/-- A break as it reads after folding, with the blank lines that follow it. -/
def folded (b : Char) (breaks : List Char) : List Char :=
  if b ≠ '\n' then b :: breaks else if breaks.isEmpty then [' '] else breaks

/-- The text up to the closing quote, which is moved over too. The first argument bounds the number
of steps; each one takes a character at least. Half of a surrogate pair is no character, so an
escape that spells one gives the null character. -/
def quotedText (double : Bool) : Nat → Cursor → Except Fault (List Char × Cursor)
  | 0, _ => .error .malformed
  | fuel + 1, c =>
    let ch := c.peek
    let mark := if double then '"' else '\''
    let andThen := fun (text : List Char) (c : Cursor) => do
      let (more, c) ← quotedText double fuel c
      return (text ++ more, c)
    if ch = mark then
      if !double && c.peekAt 1 = '\'' then andThen ['\''] (c.advanceBy 2)
      else .ok ([], c.advance)
    else if ch = ' ' || ch = '\t' || isBreakOrEnd ch then
      let (spaces, c) := c.span fun ch => ch = ' ' || ch = '\t'
      if c.peek = endMark then .error .malformed
      else
        match c.lineBreak? with
        | none => andThen spaces c
        | some (b, c) => do
          let (breaks, c) ← quotedBreaks (c.rest.length + 1) c
          andThen (folded b breaks) c
    else if double && ch = '\\' then
      let c := c.advance
      let ch := c.peek
      match escapeLetters.lookup ch with
      | some meant => andThen [meant] c.advance
      | none =>
        match escapeWidth ch with
        | some width =>
          let digits := (c.rest.drop 1).take width
          let code := hexValue digits
          if digits.length ≠ width || !digits.all isHexDigit then .error .malformed
          else if 0x80000000 ≤ code then .error (.scalar .oversizedCodePoint)
          else if 0x110000 ≤ code then .error (.scalar .notCodePoint)
          else andThen [Char.ofNat code] (c.advanceBy (width + 1))
        | none =>
          match c.lineBreak? with
          | some (_, c) => do
            let (breaks, c) ← quotedBreaks (c.rest.length + 1) c
            andThen breaks c
          | none => .error .malformed
    else andThen [ch] c.advance

/-- A quoted scalar, the cursor standing on its opening quote. -/
def scanQuoted (c : Cursor) : Except Fault (Token × Cursor) := do
  let (text, c') ← quotedText (c.peek = '"') (c.rest.length + 1) c.advance
  return (.scalar text false, c')

end RoleGrants.Yaml
