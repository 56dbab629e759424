import RoleGrants.Text.Printable
import RoleGrants.Number.Numeral

/-!
# Quoted text

Text and bytes as they are shown inside messages: between single quotes, or between double quotes
when only single quotes occur inside, with backslash escapes for what could not be read otherwise.
-/

namespace RoleGrants.Text

open RoleGrants.Number

/-- The quotation mark for a text: a single quote, unless the text has single quotes and no double
ones. -/
def quotationMark (s : List Char) : Char :=
  if s.contains '\'' && !s.contains '"' then '"' else '\''

/-- The escape of a character by its code point, in the shortest of the three forms. -/
def codePointEscape (c : Char) : List Char :=
  if c.toNat < 0x100 then '\\' :: 'x' :: hexadecimal 2 c.toNat
  else if c.toNat < 0x10000 then '\\' :: 'u' :: hexadecimal 4 c.toNat
  else '\\' :: 'U' :: hexadecimal 8 c.toNat

/-- A character inside quoted text. -/
def quotedChar (mark c : Char) : List Char :=
  if c = mark || c = '\\' then ['\\', c]
  else if c = '\n' then ['\\', 'n']
  else if c = '\r' then ['\\', 'r']
  else if c = '\t' then ['\\', 't']
  else if isPrintable c then [c]
  else codePointEscape c

/-- The quoted form of a text. -/
def quoted (s : List Char) : List Char :=
  let mark := quotationMark s
  mark :: s.flatMap (quotedChar mark) ++ [mark]

/-- The quoted form of a string. -/
def quotedString (s : String) : String := String.ofList (quoted s.toList)

/-- A byte inside quoted bytes: ASCII is shown as text, the rest by its number. -/
def quotedByte (mark : Char) (b : UInt8) : List Char :=
  if b < 0x7F then quotedChar mark (Char.ofNat b.toNat) else '\\' :: 'x' :: hexadecimal 2 b.toNat

/-- The quoted form of a run of bytes, marked by a leading letter. -/
def quotedBytes (bytes : List UInt8) : List Char :=
  let mark := quotationMark (bytes.map fun b => Char.ofNat b.toNat)
  'b' :: mark :: bytes.flatMap (quotedByte mark) ++ [mark]

end RoleGrants.Text
