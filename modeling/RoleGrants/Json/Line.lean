import RoleGrants.Json
import RoleGrants.Number.Numeral
import RoleGrants.Number.Shortest
import RoleGrants.Text.Blank

/-!
# Plain data on one line

The text of a datum on one line of printable ASCII: a blank stands behind every comma and colon,
control characters and everything beyond ASCII are written as escapes of four hexadecimal digits,
and characters beyond the first plane as two such escapes.
-/

namespace RoleGrants.Json

open RoleGrants.Number RoleGrants.Text

/-- An escape of four hexadecimal digits. -/
def unitEscape (n : Nat) : List Char := '\\' :: 'u' :: hexadecimal 4 n

/-- The letters of the escapes that have one. -/
def letterEscapes : List (Char × Char) :=
  [('"', '"'), ('\\', '\\'), ('\n', 'n'), ('\r', 'r'), ('\t', 't'), ('\x0C', 'f'), ('\x08', 'b')]

/-- A character inside a text. -/
def lineChar (c : Char) : List Char :=
  match letterEscapes.lookup c with
  | some letter => ['\\', letter]
  | none =>
    let n := c.toNat
    if 0x20 ≤ n && n ≤ 0x7E then [c]
    else if n < 0x10000 then unitEscape n
    else unitEscape (0xD800 + (n - 0x10000) / 0x400) ++ unitEscape (0xDC00 + (n - 0x10000) % 0x400)

/-- A text between its quotes. -/
def lineText (s : String) : List Char := '"' :: s.toList.flatMap lineChar ++ ['"']

/-- The style of floating-point numbers on a line. -/
def lineNumerals : Binary64.NumeralStyle := ⟨false, "NaN", "Infinity", "-Infinity"⟩

mutual

/-- The characters of a datum on one line. -/
def lineChars : Json → List Char
  | .null => "null".toList
  | .bool b => (if b then "true" else "false").toList
  | .int n => decimalInt n
  | .float x => Binary64.numeral lineNumerals x
  | .text s => lineText s
  | .array items => '[' :: joinWith [',', ' '] (lineItems items) ++ [']']
  | .object entries => '\x7b' :: joinWith [',', ' '] (lineEntries entries) ++ ['\x7d']

/-- The characters of several data. -/
def lineItems : List Json → List (List Char)
  | [] => []
  | item :: rest => item.lineChars :: lineItems rest

/-- The characters of entries. -/
def lineEntries : List (String × Json) → List (List Char)
  | [] => []
  | (key, value) :: rest => (lineText key ++ ':' :: ' ' :: value.lineChars) :: lineEntries rest

end

/-- A datum on one line. -/
def line (j : Json) : String := String.ofList j.lineChars

end RoleGrants.Json
