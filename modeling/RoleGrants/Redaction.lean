import RoleGrants.Json
import RoleGrants.Value
import RoleGrants.Text.Blank

/-!
# Redaction

Error texts from elsewhere may carry credentials. Before such a text is shown, logged or traced, two
forms of them are replaced by a marker: the user and the password in front of the host of a link,
and the value behind one of some telling words and an equals sign or a colon. What is left is cut
to a length.
-/

namespace RoleGrants.Redaction

open RoleGrants.Text

/-- What stands where a credential was. -/
def marker : List Char := "<REDACTED>".toList

/-! ## Credentials in links -/

/-- Whether a character may stand in a user name or a password. -/
def isCredentialChar (c : Char) : Bool := c != '@' && c != '/' && !isBlank c

/-- Whether a run of characters is a user name and a password, a colon between them. -/
def isCredential : List Char → Bool
  | [] => false
  | _ :: rest => rest.dropLast.contains ':'

/-- What follows the credentials at the beginning of a text, if it begins with some and an at
sign. -/
def behindCredential? (s : List Char) : Option (List Char) :=
  match s.dropWhile isCredentialChar with
  | '@' :: rest => if isCredential (s.takeWhile isCredentialChar) then some rest else none
  | _ => none

/-- What follows the beginning of a link and credentials, if a text begins with them. -/
def behindLink? : List Char → Option (List Char)
  | ':' :: '/' :: '/' :: s => behindCredential? s
  | _ => none

/-- Replaces credentials in links. The number of characters still to pass over belongs to
credentials that were replaced. -/
def redactLinksFrom : Nat → List Char → List Char
  | _, [] => []
  | n + 1, _ :: s => redactLinksFrom n s
  | 0, c :: s =>
    match behindLink? (c :: s) with
    | some rest => [':', '/', '/'] ++ marker ++ '@' :: redactLinksFrom (s.length - rest.length) s
    | none => c :: redactLinksFrom 0 s

/-- Replaces credentials in links. -/
def redactLinks (s : List Char) : List Char := redactLinksFrom 0 s

/-! ## Values of telling words -/

/-- The words in front of a secret. -/
def tellingWords : List (List Char) :=
  ["password", "token", "api_key", "authorization", "bearer", "credential"].map String.toList

/-- The lower-case letter that a character counts as. Three letters beyond ASCII and one sign fold
to one. -/
def folded (c : Char) : Char :=
  if c = 'ſ' then 's'
  else if c = '\u212A' then 'k'
  else if c = 'ı' || c = 'İ' then 'i'
  else c.toLower

/-- What follows a word at the beginning of a text, whatever its case. -/
def behindWord? : List Char → List Char → Option (List Char)
  | [], s => some s
  | _ :: _, [] => none
  | w :: ws, c :: s => if folded c = w then behindWord? ws s else none

/-- What follows the value behind a word: blanks, an equals sign or a colon, blanks, and a run of
other characters. -/
def behindValue? (s : List Char) : Option (List Char) :=
  match s.dropWhile isBlank with
  | c :: rest =>
    if c = '=' || c = ':' then
      let value := rest.dropWhile isBlank
      if value.isEmpty then none else some (value.dropWhile fun c => !isBlank c)
    else none
  | [] => none

/-- What follows a telling word and its value at the beginning of a text. -/
def behindSecret? (s : List Char) : Option (List Char) :=
  tellingWords.findSome? fun word => (behindWord? word s).bind behindValue?

/-- What a telling word with its value is replaced by: everything in front of the first equals sign
stays, or in front of the first colon if there is none. -/
def replacement (found : List Char) : List Char :=
  if found.contains '=' then found.takeWhile (· ≠ '=') ++ '=' :: marker
  else found.takeWhile (· ≠ ':') ++ ':' :: ' ' :: marker

/-- Replaces the values of telling words. The number of characters still to pass over belongs to a
value that was replaced. -/
def redactValuesFrom : Nat → List Char → List Char
  | _, [] => []
  | n + 1, _ :: s => redactValuesFrom n s
  | 0, c :: s =>
    match behindSecret? (c :: s) with
    | some rest =>
      let n := (c :: s).length - rest.length
      replacement ((c :: s).take n) ++ redactValuesFrom (n - 1) s
    | none => c :: redactValuesFrom 0 s

/-- Replaces the values of telling words. -/
def redactValues (s : List Char) : List Char := redactValuesFrom 0 s

/-! ## Cutting -/

/-- The first characters of a text; a negative number says how many to leave out at the end. -/
def cut (length : Int) (s : List Char) : List Char :=
  if 0 ≤ length then s.take length.toNat else s.take (s.length - length.natAbs)

/-- The length error texts are cut to. -/
def maxLength : Int := 500

/-- A text without its credentials, cut to a length. -/
def sanitizeTo (length : Int) (message : String) : String :=
  String.ofList (cut length (redactValues (redactLinks message.toList)))

/-- A text without its credentials, cut to the usual length. -/
def sanitize (message : String) : String := sanitizeTo maxLength message

end RoleGrants.Redaction
