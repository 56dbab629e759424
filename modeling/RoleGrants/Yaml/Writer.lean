import RoleGrants.Yaml.Style
import RoleGrants.Json
import RoleGrants.Number.Shortest

/-!
# Writing YAML

Documents are written in block style: a mapping has an entry on each line, a sequence an item behind
a dash on each line, each level two columns further in. A sequence that is the value of an entry
begins at the column of its key. Texts that reach beyond column 80 are folded at spaces.

The pen remembers what decides about the next blank: the column, whether the last character was a
blank, and whether only indentation and dashes stand on the line.
-/

namespace RoleGrants.Yaml

open RoleGrants.Number RoleGrants.Text

/-- What is written so far, the last character first, and where the pen is. -/
structure Pen where
  written : List Char
  column : Nat
  /-- Whether a blank is the last character. -/
  blank : Bool
  /-- Whether the line has nothing but indentation so far. -/
  indenting : Bool
  /-- Whether the last document ended in a plain scalar, which only an end mark closes. -/
  openEnded : Bool
  deriving Repr

namespace Pen

/-- The pen at the beginning. -/
def start : Pen := ⟨[], 0, true, true, false⟩

/-- The column behind which texts are folded. -/
def width : Nat := 80

/-! ## Strokes -/

/-- Writes characters of a text. -/
def put (s : List Char) (p : Pen) : Pen :=
  { p with written := s.reverse ++ p.written, column := p.column + s.length }

/-- Breaks the line with a character. -/
def breakLine (b : Char) (p : Pen) : Pen :=
  { p with written := b :: p.written, column := 0, blank := true, indenting := true }

/-- Goes to a column, on a new line if the pen is not on a line with nothing but indentation up to
there. -/
def toIndent (indent : Nat) (p : Pen) : Pen :=
  let p :=
    if !p.indenting || indent < p.column || (p.column = indent && !p.blank) then p.breakLine '\n'
    else p
  if p.column < indent then
    { p.put (List.replicate (indent - p.column) ' ') with blank := true }
  else p

/-- Writes an indicator, a space in front of it if it needs one and none is there. Some indicators
leave a line of indentation one. -/
def indicator (s : List Char) (spaced indents : Bool) (p : Pen) : Pen :=
  let p := if p.blank || !spaced then p.put s else p.put (' ' :: s)
  { p with blank := false, indenting := p.indenting && indents, openEnded := false }

/-- Marks that text was written. -/
def inText (p : Pen) : Pen := { p with blank := false, indenting := false }

/-! ## Scalars -/

/-- The characters of a plain scalar. A single space beyond the width is where the line is folded;
`fold` says whether lines may be folded, and `previous` is the character in front. -/
def plainChars (fold : Bool) (indent : Nat) (previous : Char) : List Char → Pen → Pen
  | [], p => p
  | c :: rest, p =>
    if c = ' ' && previous ≠ ' ' && rest.head? ≠ some ' ' && fold && width < p.column then
      plainChars fold indent c rest (p.toIndent indent).inText
    else plainChars fold indent c rest (p.put [c])

/-- A plain scalar. -/
def plain (isRoot fold : Bool) (indent : Nat) (s : List Char) (p : Pen) : Pen :=
  let p := if isRoot then { p with openEnded := true } else p
  if s.isEmpty then p
  else
    let p := if p.blank then p else p.put [' ']
    plainChars fold indent 'x' s p.inText

/-- The characters between single quotes. A line break is written as one more than it reads as,
unless it is one of the Unicode separators; a quote is written twice. The first character is never
folded at, and neither is the last. -/
def singleChars (fold : Bool) (indent : Nat) (previous : Option Char) : List Char → Pen → Pen
  | [], p => p
  | c :: rest, p =>
    let p :=
      if c = ' ' then
        if previous ≠ some ' ' && previous.isSome && rest.head? ≠ some ' ' && !rest.isEmpty && fold
            && width < p.column then
          p.toIndent indent
        else p.put [c]
      else if isTextBreak c then
        let opens := !(previous.map isTextBreak).getD false
        let p := if opens && c = '\n' then p.breakLine '\n' else p
        let p := p.breakLine c
        if (rest.head?.map isTextBreak).getD false then p else p.toIndent indent
      else if c = '\'' then p.put ['\'', '\'']
      else p.put [c]
    singleChars fold indent (some c) rest p

/-- A scalar between single quotes. -/
def single (fold : Bool) (indent : Nat) (s : List Char) (p : Pen) : Pen :=
  (singleChars fold indent none s (p.indicator ['\''] true false)).indicator ['\''] false false

/-- The letters of the escapes that have one. -/
def escapes : List (Char × Char) :=
  [('\x00', '0'), ('\x07', 'a'), ('\x08', 'b'), ('\t', 't'), ('\n', 'n'), ('\x0B', 'v'),
   ('\x0C', 'f'), ('\r', 'r'), ('\x1B', 'e'), ('"', '"'), ('\\', '\\'), ('\x85', 'N'),
   ('\xA0', '_'), ('\u2028', 'L'), ('\u2029', 'P')]

/-- A hexadecimal numeral in capitals. -/
def capitalHex (digits n : Nat) : List Char := (hexadecimal digits n).map Char.toUpper

/-- The escape of a character between double quotes, if it is not written as it is. -/
def escape? (c : Char) : Option (List Char) :=
  let n := c.toNat
  let direct := (0x20 ≤ n && n ≤ 0x7E) || (0xA0 ≤ n && n ≤ 0xD7FF) || (0xE000 ≤ n && n ≤ 0xFFFD)
  if direct && !(['"', '\\', '\u2028', '\u2029', byteOrderMark].contains c) then none
  else
    match escapes.lookup c with
    | some letter => some ['\\', letter]
    | none =>
      if n ≤ 0xFF then some ('\\' :: 'x' :: capitalHex 2 n)
      else if n ≤ 0xFFFF then some ('\\' :: 'u' :: capitalHex 4 n)
      else some ('\\' :: 'U' :: capitalHex 8 n)

/-- Folds a line between double quotes: a backslash hides the break, and another one keeps a space
at the beginning of the next line. -/
def foldDouble (indent : Nat) (next : Option Char) (p : Pen) : Pen :=
  let p := ((p.put ['\\']).toIndent indent).inText
  if next = some ' ' then p.put ['\\'] else p

/-- The characters between double quotes. A line is folded in front of a space or of a character
that follows an escape, and behind an escape; never in front of the first character, and never
where only one is left. -/
def doubleChars (fold : Bool) (indent : Nat) (first escaped : Bool) : List Char → Pen → Pen
  | [], p => p
  | c :: rest, p =>
    let mayFold := fold && !first && !rest.isEmpty
    match escape? c with
    | some text =>
      let p := p.put text
      let p := if mayFold && width + 1 < p.column then p.foldDouble indent rest.head? else p
      doubleChars fold indent false true rest p
    | none =>
      let p :=
        if mayFold && (c = ' ' || escaped) && width < p.column then p.foldDouble indent (some c)
        else p
      doubleChars fold indent false false rest (p.put [c])

/-- A scalar between double quotes. -/
def double (fold : Bool) (indent : Nat) (s : List Char) (p : Pen) : Pen :=
  (doubleChars fold indent true false s (p.indicator ['"'] true false)).indicator ['"'] false false

/-- A text in the style it needs. -/
def text (isRoot fold : Bool) (indent : Nat) (s : List Char) (p : Pen) : Pen :=
  match Style.ofText s with
  | .plain => p.plain isRoot fold indent s
  | .single => p.single fold indent s
  | .double => p.double fold indent s

/-- The style of floating-point numbers in documents. -/
def numerals : Binary64.NumeralStyle := ⟨true, ".nan", ".inf", "-.inf"⟩

/-! ## Nodes -/

/-- Where a node stands. -/
inductive Place where
  | root
  | item
  | entry
  deriving DecidableEq, Repr

/-- The indentation one level further in than a collection. -/
def inner (indent : Option Nat) : Nat := (indent.map (· + 2)).getD 0

/-- The indentation of the later lines of a scalar in a collection. -/
def hanging (indent : Option Nat) : Nat := (indent.map (· + 2)).getD 2

mutual

/-- A node at a place in a collection of some indentation. -/
def node (place : Place) (indent : Option Nat) : Json → Pen → Pen
  | .null, p => p.plain (place = .root) true (hanging indent) "null".toList
  | .bool b, p =>
    p.plain (place = .root) true (hanging indent) (if b then "true" else "false").toList
  | .int n, p => p.plain (place = .root) true (hanging indent) (decimalInt n)
  | .float x, p => p.plain (place = .root) true (hanging indent) (Binary64.numeral numerals x)
  | .text s, p => p.text (place = .root) true (hanging indent) s.toList
  | .array values, p =>
    if values.isEmpty then (p.indicator ['['] true false).indicator [']'] false false
    else
      let flush := place = .entry && !p.indenting
      items (if flush then indent.getD 0 else inner indent) values p
  | .object values, p =>
    if values.isEmpty then (p.indicator ['\x7b'] true false).indicator ['\x7d'] false false
    else entries (inner indent) values p

/-- The items of a sequence. -/
def items (indent : Nat) : List Json → Pen → Pen
  | [], p => p
  | item :: rest, p =>
    let p := (p.toIndent indent).indicator ['-'] true true
    items indent rest (node .item (some indent) item p)

/-- The entries of a mapping. A key that is not simple stands behind a question mark. -/
def entries (indent : Nat) : List (String × Json) → Pen → Pen
  | [], p => p
  | (key, value) :: rest, p =>
    let p := p.toIndent indent
    let p :=
      if isSimpleKey key.toList then
        (p.text false false (indent + 2) key.toList).indicator [':'] false false
      else
        let p := (p.indicator ['?'] true true).text false true (indent + 2) key.toList
        (p.toIndent indent).indicator [':'] true true
    entries indent rest (node .entry (some indent) value p)

end

/-! ## Documents -/

/-- A document on its own lines. -/
def document (doc : Json) (p : Pen) : Pen := (p.node .root none doc).toIndent 0

/-- Documents behind the first one, each behind a marker. -/
def laterDocuments : List Json → Pen → Pen
  | [], p => p
  | doc :: rest, p =>
    laterDocuments rest (((p.toIndent 0).indicator ['-', '-', '-'] true false).document doc)

end Pen

/-- The text of documents. -/
def render : List Json → String
  | [] => ""
  | doc :: rest =>
    let p := Pen.laterDocuments rest (Pen.start.document doc)
    let p := if p.openEnded then (p.indicator ['.', '.', '.'] true false).toIndent 0 else p
    String.ofList p.written.reverse

end RoleGrants.Yaml
