import RoleGrants.Yaml.Tag
import RoleGrants.Yaml.Cursor

/-!
# Styles of scalars

How a text is written: plain if it then reads as the same text, else between single quotes if it has
no characters that need escapes, else between double quotes.
-/

namespace RoleGrants.Yaml

/-- How a text is written. -/
inductive Style where
  | plain
  | single
  | double
  deriving DecidableEq, Repr

/-- Whether a character breaks a line in written text. Carriage returns are always escaped. -/
def isTextBreak (c : Char) : Bool := c = '\n' || c = '\x85' || c = '\u2028' || c = '\u2029'

/-- Whether a character can only be written by an escape. -/
def needsEscape (c : Char) : Bool :=
  let n := c.toNat
  !(c = '\n' || (0x20 ≤ n && n ≤ 0x7E)
    || ((n = 0x85 || (0xA0 ≤ n && n ≤ 0xD7FF) || (0xE000 ≤ n && n ≤ 0xFFFD)
        || (0x10000 ≤ n && n < 0x10FFFF)) && c ≠ byteOrderMark))

/-- Whether a character that passes one test stands in front of one that passes another. -/
def hasPair (p q : Char → Bool) : List Char → Bool
  | a :: b :: rest => (p a && q b) || hasPair p q (b :: rest)
  | _ => false

/-- Whether a space or the end follows. -/
def spaceFollows : List Char → Bool
  | [] => true
  | c :: _ => c = ' '

/-- Whether a colon in front of a space or the end, or a number sign behind a space, occurs. -/
def hasInnerIndicator : List Char → Bool
  | [] => false
  | c :: rest =>
    (c = ':' && spaceFollows rest) || (c = ' ' && rest.head? = some '#') || hasInnerIndicator rest

/-- Whether a text begins like something that is no plain scalar. -/
def startsWithIndicator : List Char → Bool
  | [] => false
  | c :: rest =>
    ['#', ',', '[', ']', '\x7b', '\x7d', '&', '*', '!', '|', '>', '\'', '"', '%', '@',
      '\x60'].contains c
      || ((c = '?' || c = ':' || c = '-') && spaceFollows rest)
      || (c :: rest).take 3 = ['-', '-', '-'] || (c :: rest).take 3 = ['.', '.', '.']

/-- Whether a text may be written without quotes. -/
def allowsPlain (s : List Char) : Bool :=
  Tag.ofPlain s = .str && !s.any needsEscape && !s.any isTextBreak && s.head? ≠ some ' '
    && s.getLast? ≠ some ' ' && !startsWithIndicator s && !hasInnerIndicator s

/-- Whether a text may be written between single quotes. Spaces next to a line break would be lost
there. -/
def allowsSingle (s : List Char) : Bool :=
  !s.any needsEscape && !hasPair isTextBreak (· = ' ') s && !hasPair (· = ' ') isTextBreak s

/-- The style of a text. -/
def Style.ofText (s : List Char) : Style :=
  if allowsPlain s then .plain else if allowsSingle s then .single else .double

/-- Whether a text is written as a key on one line: it is short, not empty, and has no breaks. -/
def isSimpleKey (s : List Char) : Bool := s.length + 5 < 128 && !s.isEmpty && !s.any isTextBreak

end RoleGrants.Yaml
