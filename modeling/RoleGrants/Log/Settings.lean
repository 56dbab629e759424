import RoleGrants.Log.Record
import RoleGrants.Value

/-!
# Log settings

What is logged and how it is shown. Levels are named by their words in any case.
-/

namespace RoleGrants

/-- How log records are shown: for programs, or for people. -/
inductive LogFormat where
  | json
  | console
  deriving DecidableEq, Repr

/-- The level below which nothing is logged, and the form of records. -/
structure LogSettings where
  threshold : LogLevel
  format : LogFormat
  deriving DecidableEq, Repr

/-- A capital letter for a letter; the dotless letter has the same capital as the dotted one. -/
def capital (c : Char) : Char := if c = 'ı' then 'I' else c.toUpper

/-- The level that a word names. -/
def LogLevel.ofWord? (word : String) : Option LogLevel :=
  LogLevel.names.lookup (String.ofList (word.toList.map capital))

/-- What is said about a word that names no level. -/
def LogLevel.unknownMessage (word : String) : String :=
  "Invalid log level '" ++ word ++ "'. Expected one of: "
    ++ (Json.array (LogLevel.names.map fun n => .text n.1)).plain

namespace LogSettings

/-- The settings that hold when nothing is set. -/
def default : LogSettings := ⟨.info, .json⟩

/-- Whether records of a level are shown. -/
def shows (s : LogSettings) (level : LogLevel) : Bool := s.threshold.rank ≤ level.rank

/-- A record is shown if and only if its level is no lighter than the threshold. -/
theorem shows_iff (s : LogSettings) (level : LogLevel) :
    s.shows level = true ↔ s.threshold.rank ≤ level.rank := by simp [shows]

end LogSettings

end RoleGrants
