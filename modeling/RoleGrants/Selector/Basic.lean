import RoleGrants.Schema.Check

/-!
# Namespace selectors

A selector is a label query over namespaces: labels that have to have given values, and
requirements on single labels. It is set when either part is present; a part that is present and
empty asks for nothing and so selects every namespace.
-/

namespace RoleGrants

open RoleGrants.Schema

/-- How a requirement looks at a label. -/
inductive Operator where
  | isIn
  | isNotIn
  | isPresent
  | isAbsent
  deriving DecidableEq, Repr

/-- The operators by the words for them. -/
def Operator.words : List (String × Operator) :=
  [("In", .isIn), ("NotIn", .isNotIn), ("Exists", .isPresent), ("DoesNotExist", .isAbsent)]

/-- The word for an operator. -/
def Operator.word : Operator → String
  | .isIn => "In"
  | .isNotIn => "NotIn"
  | .isPresent => "Exists"
  | .isAbsent => "DoesNotExist"

/-- A requirement on one label. -/
structure Requirement where
  key : String
  operator : Operator
  values : List String
  deriving DecidableEq, Repr

/-- A label query over namespaces. -/
structure Selector where
  matchLabels : Option (List (String × String))
  matchExpressions : Option (List Requirement)
  deriving DecidableEq, Repr

namespace Selector

/-- Whether the selector has any part at all. -/
def isSet (s : Selector) : Bool := s.matchLabels.isSome || s.matchExpressions.isSome

/-- The labels asked for. -/
def labels (s : Selector) : List (String × String) := s.matchLabels.getD []

/-- The requirements on single labels. -/
def requirements (s : Selector) : List Requirement := s.matchExpressions.getD []

end Selector

/-! ## Reading -/

/-- Values are listed exactly by the operators that compare with values. -/
def Requirement.rule (r : Requirement) : Option Rule :=
  match r.operator with
  | .isIn | .isNotIn =>
    if r.values.isEmpty then some (.operatorNeedsValues r.operator.word r.key) else none
  | .isPresent | .isAbsent =>
    if r.values.isEmpty then none else some (.operatorTakesNoValues r.operator.word r.key)

/-- Reads a requirement. -/
def Requirement.read : Reader Requirement := fun v =>
  Check.obey Requirement.rule <|
    Fields.closed "LabelSelectorRequirement"
      (Requirement.mk <$> Fields.required (.one "key") nonEmptyText
        <*> Fields.required (.one "operator") (oneOf Operator.words)
        <*> Fields.withDefault (.one "values") [] (listOf text)) v

/-- Reads a selector. -/
def Selector.read : Reader Selector :=
  Fields.closed "NamespaceSelector"
    (Selector.mk
      <$> Fields.withDefault ⟨"matchLabels", some "match_labels"⟩ none (optional textMap)
      <*> Fields.withDefault ⟨"matchExpressions", some "match_expressions"⟩ none
        (optional (listOf Requirement.read)))

/-! ## Dumping -/

/-- A requirement as plain data. -/
def Requirement.dump (r : Requirement) : Json :=
  .object [("key", .text r.key), ("operator", .text r.operator.word),
    ("values", .array (r.values.map .text))]

/-- Labels as plain data. -/
def labelsDump (labels : List (String × String)) : Json :=
  .object (labels.map fun l => (l.1, .text l.2))

/-- A selector as plain data. -/
def Selector.dump (s : Selector) : Json :=
  .object [("match_labels", (s.matchLabels.map labelsDump).getD .null),
    ("match_expressions",
      (s.matchExpressions.map fun rs => Json.array (rs.map Requirement.dump)).getD .null)]

end RoleGrants
