import RoleGrants.Json

/-!
# Log records
-/

namespace RoleGrants

/-- The weight of a log record, the lightest first. -/
inductive LogLevel where
  | debug
  | info
  | warning
  | error
  | critical
  deriving DecidableEq, Repr, Inhabited

namespace LogLevel

/-- The rank of a level. -/
def rank : LogLevel → Nat
  | .debug => 10
  | .info => 20
  | .warning => 30
  | .error => 40
  | .critical => 50

/-- The word for a level. -/
def word : LogLevel → String
  | .debug => "debug"
  | .info => "info"
  | .warning => "warning"
  | .error => "error"
  | .critical => "critical"

/-- The levels by their capital words. -/
def names : List (String × LogLevel) :=
  [("DEBUG", .debug), ("INFO", .info), ("WARNING", .warning), ("ERROR", .error),
   ("CRITICAL", .critical)]

/-- The capital word for a level. -/
def name : LogLevel → String
  | .debug => "DEBUG"
  | .info => "INFO"
  | .warning => "WARNING"
  | .error => "ERROR"
  | .critical => "CRITICAL"

end LogLevel

/-- A circumstance of something that is logged. -/
inductive LogField where
  | datum (value : Json)
  /-- Several data that belong together. -/
  | group (items : List Json)
  deriving Repr, Inhabited

namespace LogField

/-- A text as a circumstance. -/
def text (s : String) : LogField := .datum (.text s)

/-- A text that may be missing, as a circumstance. -/
def text? (s : Option String) : LogField := .datum (.text? s)

/-- A count as a circumstance. -/
def nat (n : Nat) : LogField := .datum (.nat n)

/-- A circumstance as plain data. -/
def json : LogField → Json
  | .datum value => value
  | .group items => .array items

end LogField

/-- Something that is logged: what happened, and the circumstances. -/
structure LogRecord where
  level : LogLevel
  event : String
  fields : List (String × LogField)
  deriving Repr, Inhabited

/-- The circumstances of a record as plain data. -/
def LogRecord.entries (r : LogRecord) : List (String × Json) :=
  r.fields.map fun f => (f.1, f.2.json)

end RoleGrants
