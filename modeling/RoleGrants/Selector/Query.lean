import RoleGrants.Selector.Basic
import RoleGrants.Sorting

/-!
# Selectors as queries

The text of a selector in the query language of the cluster: `k=v`, `k in (v1,v2)`,
`k notin (v1,v2)`, `k` and `!k`, separated by commas. Labels are sorted by key, requirements by key
and operator, and the values of a requirement by themselves, so that a selector has one text
whatever order its parts were written in.
-/

namespace RoleGrants

/-- Whether a pair of texts comes no later than another, compared by the first text and then by
the second. -/
def pairLe (a b : String × String) : Bool := a.1 < b.1 || (a.1 == b.1 && a.2 ≤ b.2)

namespace Requirement

/-- The order of requirements in a query: by key, then by the word for the operator. -/
def le (a b : Requirement) : Bool := pairLe (a.key, a.operator.word) (b.key, b.operator.word)

/-- The text of a requirement. -/
def query (r : Requirement) : String :=
  let values := fun (_ : Unit) => ",".intercalate (sortedBy (fun a b => a ≤ b) r.values)
  match r.operator with
  | .isPresent => r.key
  | .isAbsent => "!" ++ r.key
  | .isIn => r.key ++ " in (" ++ values () ++ ")"
  | .isNotIn => r.key ++ " notin (" ++ values () ++ ")"

end Requirement

namespace Selector

/-- The pieces of the query of a selector. -/
def queryPieces (s : Selector) : List String :=
  (sortedBy pairLe s.labels).map (fun l => l.1 ++ "=" ++ l.2)
    ++ (sortedBy Requirement.le s.requirements).map Requirement.query

/-- The query of a selector, empty when it selects everything. -/
def query (s : Selector) : String := ",".intercalate s.queryPieces

end Selector

end RoleGrants
