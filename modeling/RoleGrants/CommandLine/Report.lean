import RoleGrants.CommandLine.Usage
import RoleGrants.Definition.Load
import RoleGrants.Redaction
import RoleGrants.Value

/-!
# Exit codes and reports

How a run ends: with an exit code, and if it fails with a line on the error. Texts of errors are
shown without credentials.
-/

namespace RoleGrants.CommandLine

/-- How a run ends. -/
inductive ExitCode where
  | success
  | generalError
  | usageError
  | fileNotFound
  | validationError
  | networkError
  deriving DecidableEq, Repr

namespace ExitCode

/-- The number of an exit code. -/
def number : ExitCode → Nat
  | .success => 0
  | .generalError => 1
  | .usageError => 2
  | .fileNotFound => 3
  | .validationError => 5
  | .networkError => 8

/-- All exit codes. -/
def all : List ExitCode :=
  [.success, .generalError, .usageError, .fileNotFound, .validationError, .networkError]

/-- The exit code of a number. -/
def ofNumber? (n : Nat) : Option ExitCode := all.find? fun c => c.number = n

/-- Every exit code is found by its number. -/
theorem ofNumber?_number (c : ExitCode) : ofNumber? c.number = some c := by cases c <;> rfl

end ExitCode

/-- A line on an error, with its circumstances between parentheses; those that are null are left
out. -/
def errorWith (message : String) (context : List (String × Json)) : String :=
  let shown := context.filterMap fun c =>
    match c.2 with
    | .null => none
    | value => some (c.1 ++ "=" ++ value.plain)
  let listed := ", ".intercalate shown
  errorText (if listed.isEmpty then message else message ++ " (" ++ listed ++ ")")

/-- The end of a run that fails: the exit code, and what is said. -/
abbrev Refusal := ExitCode × String

/-- The end of a run with an error that is not foreseen. -/
def unforeseen (message : String) : Refusal :=
  (.generalError, errorText (Redaction.sanitize message))

/-- The end of a run whose files cannot be loaded. -/
def loadRefusal (e : LoadError) : Refusal :=
  match e with
  | .document _ _ => (.validationError, errorText (Redaction.sanitize e.message))
  | .file ⟨.notFound, path⟩ => (.fileNotFound, errorWith "File not found" [("path", .text path)])
  | e => unforeseen e.message

end RoleGrants.CommandLine
