import RoleGrants.Number.Numeral

/-!
# Span contexts

What ties a log record or an audit event to a span: the identifiers of the span and of the trace it
belongs to. Identifiers that are zero stand for none.
-/

namespace RoleGrants

/-- The identifiers of a span and of the trace it belongs to. -/
structure SpanContext where
  traceId : Nat
  spanId : Nat
  deriving DecidableEq, Repr

namespace SpanContext

/-- The context of no span. -/
def invalid : SpanContext := ⟨0, 0⟩

/-- Whether the identifiers are those of a span: neither is zero, and both fit their width. -/
def isValid (c : SpanContext) : Bool :=
  c.traceId != 0 && c.spanId != 0 && c.traceId < Nat.pow 2 128 && c.spanId < Nat.pow 2 64

/-- The text of a trace's identifier. -/
def traceText (c : SpanContext) : String := String.ofList (Number.hexadecimal 32 c.traceId)

/-- The text of a span's identifier. -/
def spanText (c : SpanContext) : String := String.ofList (Number.hexadecimal 16 c.spanId)

/-- The trace's identifier, if there is a span. -/
def traceId? (c : SpanContext) : Option String := if c.isValid then some c.traceText else none

end SpanContext

end RoleGrants
