import RoleGrants.Json.Line
import RoleGrants.Log.Settings
import RoleGrants.Sorting
import RoleGrants.Trace.Context

/-!
# Lines of a log

A record becomes one line. For programs it is an object with the circumstances first and then the
event, the level, the time, and the identifiers of the span if there is one. For people time, level
and event stand in columns, and the circumstances follow in the order of their names.
-/

namespace RoleGrants.Log

open RoleGrants.Text

/-- Sets a circumstance: one that is there keeps its place, a new one goes to the end. -/
def setField (key : String) (value : LogField) : List (String × LogField) → List (String × LogField)
  | [] => [(key, value)]
  | (k, v) :: rest => if k = key then (key, value) :: rest else (k, v) :: setField key value rest

/-- Everything that a line tells. -/
def lineFields (time : String) (span : SpanContext) (r : LogRecord) : List (String × LogField) :=
  let fields := setField "timestamp" (.text time)
    (setField "level" (.text r.level.word) (setField "event" (.text r.event) r.fields))
  if span.traceId = 0 || span.spanId = 0 then fields
  else setField "span_id" (.text span.spanText) (setField "trace_id" (.text span.traceText) fields)

/-! ## For programs -/

/-- The line of a record as an object. -/
def objectLine (fields : List (String × LogField)) : String :=
  (Json.object (fields.map fun f => (f.1, f.2.json))).line

/-! ## For people -/

/-- Whether a text can only be told from its surroundings between quotes. -/
def needsQuotes (s : List Char) : Bool :=
  s.any fun c => [' ', '\t', '=', '\r', '\n', '"', '\''].contains c

/-- The text of a circumstance. -/
def shownField : LogField → List Char
  | .datum (.text s) => if needsQuotes s.toList then quoted s.toList else s.toList
  | .datum value => value.toValue.shown
  | .group items => (Value.tuple (Json.toValues items)).shown

/-- The text of a circumstance that stands in a column. -/
def columnText (f : LogField) : List Char := f.json.plain.toList

/-- The columns, by the names of the circumstances that stand in them. -/
def columns : List (String × (List Char → List Char)) :=
  [("timestamp", fun s => s),
   ("level", fun s => '[' :: padRight 9 s ++ [']']),
   ("event", padRight 30),
   ("logger", fun s => '[' :: s ++ [']']),
   ("logger_name", fun s => '[' :: s ++ [']'])]

/-- The text without the spaces at its end. -/
def dropLastSpaces (s : List Char) : List Char := (s.reverse.dropWhile (· = ' ')).reverse

/-- The line of a record in columns. -/
def columnLine (fields : List (String × LogField)) : String :=
  let front := columns.filterMap fun column =>
    (fields.lookup column.1).map fun f => column.2 (columnText f)
  let others := fields.filter fun f => (columns.lookup f.1).isNone
  let sorted := sortedBy (fun a b => decide (a.1 ≤ b.1)) others
  let back := sorted.map fun f => f.1.toList ++ '=' :: shownField f.2
  String.ofList (dropLastSpaces (joinWith [' '] (front ++ back)))

/-- The line of a record, with its end, or nothing if records of its level are not shown. -/
def line (settings : LogSettings) (time : String) (span : SpanContext) (r : LogRecord) : String :=
  if settings.shows r.level then
    let fields := lineFields time span r
    (match settings.format with
      | .json => objectLine fields
      | .console => columnLine fields) ++ "\n"
  else ""

/-- The line of a bare message, with its end, or nothing if messages of its level are not shown. -/
def messageLine (settings : LogSettings) (level : LogLevel) (message : String) : String :=
  if settings.shows level then message ++ "\n" else ""

end RoleGrants.Log
