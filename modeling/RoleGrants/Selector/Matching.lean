import RoleGrants.Selector.Basic

/-!
# Matching labels

When a set of labels satisfies a selector. A label that is absent satisfies the two negative
operators and neither of the positive ones.
-/

namespace RoleGrants

/-- The labels of a namespace, in the order they were set. -/
abbrev Labels := List (String × String)

/-- The value of a label. -/
def Labels.get? (labels : Labels) (key : String) : Option String :=
  (labels.find? fun l => l.1 == key).map (·.2)

namespace Requirement

/-- Whether labels satisfy a requirement. -/
def holds (r : Requirement) (labels : Labels) : Bool :=
  match r.operator, labels.get? r.key with
  | .isPresent, found => found.isSome
  | .isAbsent, found => found.isNone
  | .isIn, some value => r.values.contains value
  | .isIn, none => false
  | .isNotIn, some value => !r.values.contains value
  | .isNotIn, none => true

end Requirement

namespace Selector

/-- Whether labels satisfy every part of a selector. -/
def holds (s : Selector) (labels : Labels) : Bool :=
  (s.labels.all fun l => labels.get? l.1 == some l.2)
    && s.requirements.all fun r => r.holds labels

end Selector

end RoleGrants
