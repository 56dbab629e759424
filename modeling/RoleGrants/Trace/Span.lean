import RoleGrants.Json

/-!
# Spans

A span records one piece of work: attributes, whether it failed, and whether it is over. It is known
by what is done to it.
-/

namespace RoleGrants

/-- Something that is done to a span. -/
inductive SpanMark where
  /-- A span begins, with attributes. -/
  | begun (attributes : List (String × Json))
  | attribute (key : String) (value : Json)
  /-- The span is marked as failed. -/
  | failed (description : String)
  | ended
  deriving Repr

/-- What a span records: attributes, and for a failure a description. -/
structure SpanRecord where
  attributes : List (String × Json)
  /-- The text with which the span is marked as failed. -/
  failed : Option String
  /-- Whether the span is over. -/
  ended : Bool
  deriving Repr

namespace SpanRecord

/-- The word for the status of a span. -/
def status (s : SpanRecord) : String := if s.failed.isSome then "ERROR" else "UNSET"

/-- What is done to the last one of some spans, which comes first, or a new one before them. -/
def take (spans : List SpanRecord) : SpanMark → List SpanRecord
  | .begun attributes => ⟨attributes, none, false⟩ :: spans
  | .attribute key value =>
    spans.modifyHead fun s => { s with attributes := Json.put key value s.attributes }
  | .failed description => spans.modifyHead fun s => { s with failed := some description }
  | .ended => spans.modifyHead fun s => { s with ended := true }

/-- The spans that come of what was done, in order. -/
def ofMarks (marks : List SpanMark) : List SpanRecord := (marks.foldl take []).reverse

end SpanRecord

end RoleGrants
