import RoleGrants.Yaml.Token.Quoted

/-!
# Block scalars

Text on lines of its own below a bar, which keeps its line breaks, or below a greater-than sign,
which folds them. The header may give the indentation, and what becomes of the breaks at the end:
one is kept, all are, or none is.
-/

namespace RoleGrants.Yaml

open RoleGrants.Number

/-- What becomes of the line breaks at the end of a block scalar. -/
inductive Chomping where
  | clip
  | keep
  | strip
  deriving DecidableEq, Repr

/-- A chomping sign, if one is next. -/
def chomping? (c : Cursor) : Option (Chomping × Cursor) :=
  if c.peek = '+' then some (.keep, c.advance)
  else if c.peek = '-' then some (.strip, c.advance)
  else none

/-- An indentation digit, if one is next; zero is none. -/
def indentDigit? (c : Cursor) : Except Fault (Option Nat × Cursor) :=
  if isDigit c.peek then
    if c.peek = '0' then .error .malformed else .ok (some (c.peek.toNat - 48), c.advance)
  else .ok (none, c)

/-- The header behind the sign that opens a block scalar, with its line break. -/
def blockHeader (c : Cursor) : Except Fault (Chomping × Option Nat × Cursor) := do
  let (chomping, digit, c) ← match chomping? c with
    | some (chomping, c) => do
      let (digit, c) ← indentDigit? c
      pure (chomping, digit, c)
    | none => do
      let (digit, c) ← indentDigit? c
      match digit, chomping? c with
      | some _, some (chomping, c) => pure (chomping, digit, c)
      | _, _ => pure (Chomping.clip, digit, c)
  if !isSpaceOrEnd c.peek then throw .malformed
  let c := c.skipSpaces.skipComment
  if !isBreakOrEnd c.peek then throw .malformed
  match c.lineBreak? with
  | some (_, c) => return (chomping, digit, c)
  | none => return (chomping, digit, c)

/-- The blank lines in front of the first line with text, and the widest indentation seen. -/
def leadingBreaks (widest : Nat) : Nat → Cursor → List Char × Nat × Cursor
  | 0, c => ([], widest, c)
  | fuel + 1, c =>
    if c.peek = ' ' then
      let c := c.advance
      leadingBreaks (max widest c.column) fuel c
    else
      match c.lineBreak? with
      | none => ([], widest, c)
      | some (b, c) =>
        let (breaks, widest, c) := leadingBreaks widest fuel c
        (b :: breaks, widest, c)

/-- The blank lines of an indentation, and the indentation of the line behind them. -/
def blockBreaks (indent : Nat) : Nat → Cursor → List Char × Cursor
  | 0, c => ([], c)
  | fuel + 1, c =>
    let c := c.skipIndent indent
    match c.lineBreak? with
    | none => ([], c)
    | some (b, c) =>
      let (breaks, c) := blockBreaks indent fuel c
      (b :: breaks, c)

/-- The lines of a block scalar. The text of each line is preceded by the breaks that were read in
front of it; what is left at the end are the last break and the blank lines behind it. -/
def blockLines (fold : Bool) (indent : Nat) (breaks : List Char) :
    Nat → Cursor → List Char × List Char × List Char × Cursor
  | 0, c => ([], [], breaks, c)
  | fuel + 1, c =>
    if c.column ≠ indent || c.peek = endMark then ([], [], breaks, c)
    else
      let flush := fun (ch : Char) => ch ≠ ' ' && ch ≠ '\t'
      let startsFlush := flush c.peek
      let (line, c) := c.span fun ch => !isBreakOrEnd ch
      let (last, c) := match c.lineBreak? with
        | some (b, c) => ([b], c)
        | none => ([], c)
      let (next, c) := blockBreaks indent (c.rest.length + 1) c
      if c.column = indent && c.peek ≠ endMark then
        let joint :=
          if fold && last = ['\n'] && startsFlush && flush c.peek then
            (if next.isEmpty then [' '] else [])
          else last
        let (more, last, tail, c) := blockLines fold indent next fuel c
        (breaks ++ line ++ joint ++ more, last, tail, c)
      else (breaks ++ line, last, next, c)

/-- A block scalar below a collection of some indentation, the cursor standing on its sign. -/
def scanBlock (indent : Int) (c : Cursor) : Except Fault (Token × Cursor) := do
  let fold := c.peek = '>'
  let (chomping, digit, c) ← blockHeader c.advance
  let least := (max (indent + 1) 1).toNat
  let (indent, breaks, c) := match digit with
    | none =>
      let (breaks, widest, c) := leadingBreaks 0 (c.rest.length + 1) c
      (max least widest, breaks, c)
    | some n =>
      let indent := least + n - 1
      let (breaks, c) := blockBreaks indent (c.rest.length + 1) c
      (indent, breaks, c)
  let (text, last, tail, c) := blockLines fold indent breaks (c.rest.length + 1) c
  let ending := match chomping with
    | .clip => last
    | .keep => last ++ tail
    | .strip => []
  return (.scalar (text ++ ending) false, c)

end RoleGrants.Yaml
