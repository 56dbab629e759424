import RoleGrants.Proofs.Resolution.Effects

/-!
# The items of a definition

A definition is resolved by nested loops: over its bindings, and in each binding over its grants in
namespaces.  Laid out in document order the loops are one: for each binding an item for its
subjects, one for each of its grants in namespaces, and one for its end.  `resolveAll_eq` says that
resolving a definition is resolving its items one after the other, so whatever is to be shown of all
resolutions is an induction over a list.

The cluster-wide grants of a binding cannot fail and have no effects; their objects are counted with
the item of its subjects.
-/

namespace RoleGrants

variable {σ : Type}

/-- One thing that is resolved at a time. -/
inductive Item where
  /-- A definition without bindings. -/
  | vacant
  /-- The subjects of a binding. -/
  | subjects (b : Binding)
  | grant (b : Binding) (g : NamespaceGrant)
  /-- The end of a binding. -/
  | finished (b : Binding)

/-- The items of a binding. -/
def Binding.items (b : Binding) : List Item :=
  .subjects b :: (b.namespaceGrants.map (.grant b) ++ [.finished b])

/-- The items of a definition. -/
def Definition.items (d : Definition) : List Item :=
  if d.bindings = [] then [.vacant] else d.bindings.flatMap Binding.items

theorem forall_mem_items (d : Definition) (P : Item → Prop) (hvacant : P .vacant) :
    (∀ i ∈ d.items, P i) ↔ ∀ b ∈ d.bindings,
      P (.subjects b) ∧ (∀ g ∈ b.namespaceGrants, P (.grant b g)) ∧ P (.finished b) := by
  unfold Definition.items
  by_cases h : d.bindings = []
  · simp [h, hvacant]
  · simp only [if_neg h, Binding.items, List.mem_flatMap, forall_exists_index, and_imp]
    rw [forall_comm]
    refine forall_congr' fun b => ?_
    rw [forall_comm]
    refine forall_congr' fun _ => ?_
    simp [or_imp, forall_and]

namespace Definition

variable (d : Definition) (directory : Option (Directory σ))

/-- Resolves an item. -/
def resolveItem : Item → Resolving σ Produced
  | .vacant => do
    emit .noBindings
    return .none
  | .subjects b =>
    if b.subjects.isEmpty then throw (.binding d.name b.name .noSubjects)
    else return ⟨b.subjects.filterMap d.accountOf, [], b.clusterGrants.map (d.clusterBindingOf b)⟩
  | .grant b g => return ⟨[], ← d.resolveGrant b directory g, []⟩
  | .finished b => do
    emit (.bindingResolved b.name b.subjects.length b.clusterGrants.length
      b.namespaceGrants.length)
    return .none

/-- Resolves items, one after the other. -/
def resolveItems : List Item → Resolving σ Produced
  | [] => return .none
  | i :: rest => do
    let first ← d.resolveItem directory i
    let more ← resolveItems rest
    return first.append more

end Definition

namespace Produced

@[simp] theorem none_append (p : Produced) : Produced.none.append p = p := rfl

theorem append_assoc (p q r : Produced) : (p.append q).append r = p.append (q.append r) := by
  simp [Produced.append]

end Produced

namespace Definition

variable (d : Definition) (directory : Option (Directory σ))

/-! ## The loops are one -/

theorem resolveItems_append (xs ys : List Item) :
    d.resolveItems directory (xs ++ ys) = (do
      let first ← d.resolveItems directory xs
      let more ← d.resolveItems directory ys
      return first.append more) := by
  induction xs with
  | nil => simp [resolveItems, -bind_pure_comp]
  | cons i rest ih => simp [resolveItems, ih, Produced.append_assoc, -bind_pure_comp]

theorem resolveItems_grants (b : Binding) (gs : List NamespaceGrant) :
    d.resolveItems directory (gs.map (.grant b)) = (do
      let made ← d.resolveGrants b directory gs
      return ⟨[], made, []⟩) := by
  induction gs with
  | nil => simp [resolveItems, resolveGrants, Produced.none]
  | cons g rest ih => simp [resolveItems, resolveItem, resolveGrants, ih, Produced.append]

theorem resolveItems_binding (b : Binding) :
    d.resolveItems directory b.items = d.resolveBinding b directory := by
  unfold Binding.items resolveBinding
  by_cases h : b.subjects = []
  · simp [resolveItems, resolveItem, h]
  · simp [resolveItems, resolveItem, resolveItems_append, resolveItems_grants, h, Produced.append,
      Produced.none, -bind_pure_comp]

theorem resolveItems_bindings (bs : List Binding) :
    d.resolveItems directory (bs.flatMap Binding.items) = d.resolveBindings directory bs := by
  induction bs with
  | nil => rfl
  | cons b rest ih =>
      simp [resolveItems_append, resolveItems_binding, resolveBindings, ih]

/-- Resolving a definition is resolving its items in order. -/
theorem resolveAll_eq : d.resolveAll directory = d.resolveItems directory d.items := by
  unfold resolveAll items
  by_cases h : d.bindings = []
  · simp [h, resolveBindings, resolveItems, resolveItem]
  · simp [h, resolveItems_bindings]

end Definition

end RoleGrants
