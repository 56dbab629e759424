import RoleGrants.Proofs.Resolution.Answers

/-!
# The objects of a definition

What a definition says, written down without resolving it: which objects it asks for, as a
comprehension over the document and the answers to its selectors, and when it makes sense at all.
`resolve_eq_ok_iff_objects` says that resolving a definition gives just these objects, and that it
succeeds exactly when the definition makes sense and all of its selectors are answered.
-/

namespace RoleGrants

namespace Definition

variable (d : Definition)

/-- The grants in namespaces of a definition with their bindings, in document order. -/
def grants : List (Binding × NamespaceGrant) :=
  d.bindings.flatMap fun b => b.namespaceGrants.map (b, ·)

/-- The selectors of a definition that are set, in document order. -/
def selectors : List Selector := d.grants.filterMap fun bg => bg.2.activeSelector

/-- A definition that makes sense: every binding has a subject, and every grant in namespaces names
exactly one role and has a target. -/
structure WellFormed : Prop where
  subjects : ∀ b ∈ d.bindings, b.subjects ≠ []
  roles : ∀ b ∈ d.bindings, ∀ g ∈ b.namespaceGrants, g.role.isSome ≠ g.clusterRole.isSome
  targets : ∀ b ∈ d.bindings, ∀ g ∈ b.namespaceGrants,
    g.usesSelector ∨ g.namespaceName.isSome

/-- The metadata of an object of a definition: it is marked as managed, and owned by the definition
if that has an identifier. -/
def metadataOf (name : String) (namespaceName : Option String) : ObjectMeta where
  name := name
  namespaceName := namespaceName
  labels := [("app.kubernetes.io/managed-by", "rbac-manager")]
  owners := (d.metadata.uid.filter (· ≠ "")).toList.map fun uid =>
    ⟨d.apiVersion, "RBACDefinition", d.metadata.name, uid, true, true⟩

/-- The role binding that a grant asks for in a namespace. -/
def roleBindingOf (b : Binding) (g : NamespaceGrant) (n : String) : RoleBinding :=
  let stem := d.metadata.name ++ "-" ++ b.name
  match g.clusterRole with
  | some c => ⟨d.metadataOf (stem ++ "-" ++ c) (some n), { kind := .clusterRole, name := c },
      b.subjects⟩
  | none =>
    let r := g.role.getD ""
    ⟨d.metadataOf (stem ++ "-" ++ (r ++ "-" ++ n)) (some n), { kind := .role, name := r },
      b.subjects⟩

/-- The objects that a definition asks for, given the answers to its selectors. -/
def objects (answers : List (List String)) : Produced where
  serviceAccounts := d.bindings.flatMap fun b =>
    (b.subjects.filter fun s => s.kind = .serviceAccount).map fun s =>
      ⟨d.metadataOf s.name s.namespaceName⟩
  roleBindings := (dealt (fun bg => bg.2.usesSelector) d.grants answers).flatMap fun
    ((b, g), answer) =>
      (if g.usesSelector then answer else g.namespaceName.toList).map (d.roleBindingOf b g)
  clusterRoleBindings := d.bindings.flatMap fun b => b.clusterGrants.map fun g =>
    ⟨d.metadataOf (d.metadata.name ++ "-" ++ b.name ++ "-" ++ g.clusterRole) none,
      { kind := .clusterRole, name := g.clusterRole }, b.subjects⟩

end Definition

/-! ## Objects are made as they are asked for -/

section

variable (d : Definition)

theorem stamp_eq_metadataOf (name : String) (namespaceName : Option String) :
    d.mark.stamp name namespaceName = d.metadataOf name namespaceName := by
  have howners : d.ownerReferences = (d.metadataOf name namespaceName).owners := by
    unfold Definition.ownerReferences Definition.metadataOf
    cases d.metadata.uid with
    | none => rfl
    | some uid =>
        by_cases h : uid = ""
        · simp [h]
        · simp [h, Option.filter, Definition.kind, Definition.name]
  simp only [Mark.stamp, Definition.mark, howners]
  rfl

theorem accountOf_eq (subjects : List Subject) :
    subjects.filterMap d.accountOf =
      (subjects.filter fun s => s.kind = .serviceAccount).map fun s =>
        ⟨d.metadataOf s.name s.namespaceName⟩ := by
  induction subjects with
  | nil => rfl
  | cons s rest ih =>
      by_cases h : s.kind = .serviceAccount <;>
        simp [Definition.accountOf, h, ih, stamp_eq_metadataOf]

theorem clusterBindingOf_eq (b : Binding) (g : ClusterGrant) :
    d.clusterBindingOf b g =
      ⟨d.metadataOf (d.metadata.name ++ "-" ++ b.name ++ "-" ++ g.clusterRole) none,
        { kind := .clusterRole, name := g.clusterRole }, b.subjects⟩ := by
  rw [Definition.clusterBindingOf, stamp_eq_metadataOf]
  rfl

theorem roleBindingIn_eq (b : Binding) (g : NamespaceGrant) (n : String) :
    d.roleBindingIn b g.grantedRole n (some n) = d.roleBindingOf b g n := by
  unfold Definition.roleBindingOf NamespaceGrant.grantedRole Definition.roleBindingIn
  rw [stamp_eq_metadataOf]
  cases g.clusterRole <;> rfl

end

/-! ## From items to the document -/

/-- The grant that an item is. -/
def Item.grant? : Item → Option (Binding × NamespaceGrant)
  | .grant b g => some (b, g)
  | _ => none

theorem binding_items_filterMap_grant? (b : Binding) :
    b.items.filterMap Item.grant? = b.namespaceGrants.map (b, ·) := by
  simp only [Binding.items, List.filterMap_cons, Item.grant?, List.filterMap_append,
    List.filterMap_map, List.filterMap_nil, List.append_nil]
  exact congrFun (List.filterMap_eq_map (f := (b, ·))) b.namespaceGrants

theorem items_filterMap_grant? (d : Definition) : d.items.filterMap Item.grant? = d.grants := by
  unfold Definition.items Definition.grants
  by_cases h : d.bindings = []
  · simp [h, Item.grant?]
  · rw [if_neg h, List.filterMap_flatMap]
    simp only [binding_items_filterMap_grant?]

/-- An item asks with the selector of the grant that it is. -/
theorem selector?_eq (i : Item) : i.selector? = i.grant?.bind fun bg => bg.2.activeSelector := by
  cases i <;> rfl

theorem selectorsOf_items (d : Definition) : selectorsOf d.items = d.selectors := by
  rw [Definition.selectors, ← items_filterMap_grant?, List.filterMap_filterMap]
  exact congrArg (List.filterMap · d.items) (funext selector?_eq)

/-- Dealing out answers skips things that do not ask. -/
theorem dealt_filterMap {α β γ : Type} (f : α → Option β) {asks : α → Bool} {asks' : β → Bool}
    (h : ∀ a, asks a = (f a).any asks') (F : β × List String → List γ) (things : List α)
    (answers : List (List String)) :
    ((dealt asks things answers).flatMap fun x => (f x.1).toList.flatMap fun b => F (b, x.2)) =
      (dealt asks' (things.filterMap f) answers).flatMap F := by
  induction things generalizing answers with
  | nil => rfl
  | cons a rest ih =>
      cases hf : f a with
      | none => simp [dealt_cons, h, hf, ih]
      | some b => by_cases hb : asks' b <;> simp [dealt_cons, h, hf, hb, ih]

theorem dealt_map_fst {α : Type} (asks : α → Bool) (things : List α)
    (answers : List (List String)) : (dealt asks things answers).map Prod.fst = things := by
  induction things generalizing answers with
  | nil => rfl
  | cons a rest ih => by_cases h : asks a <;> simp [dealt_cons, h, ih]

/-- What an item gives whatever the answers is gathered from the items alone. -/
theorem dealt_flatMap_fst {α γ : Type} (asks : α → Bool) (F : α → List γ) (things : List α)
    (answers : List (List String)) :
    ((dealt asks things answers).flatMap fun x => F x.1) = things.flatMap F := by
  rw [← List.flatMap_map, dealt_map_fst]

/-- If there is an answer for each of the things that ask, these get all of the answers. -/
theorem dealt_flatMap_snd {α : Type} (asks : α → Bool) {things : List α}
    {answers : List (List String)} (h : answers.length = things.countP asks) :
    ((dealt asks things answers).flatMap fun x => if asks x.1 then x.2 else []) =
      answers.flatten := by
  induction things generalizing answers with
  | nil =>
      rw [List.countP_nil, List.length_eq_zero_iff] at h
      subst h
      rfl
  | cons a rest ih =>
      by_cases ha : asks a
      · rw [List.countP_cons_of_pos ha] at h
        obtain ⟨answer, more, rfl⟩ := List.exists_cons_of_length_eq_add_one h
        have hmore := ih (Nat.succ.inj h)
        simp [dealt_cons, ha, hmore]
      · rw [List.countP_cons_of_neg ha] at h
        simp [dealt_cons, ha, ih h]

/-! ## From answers to objects -/

section

variable {γ : Type} (field : Produced → List γ) (d : Definition)

/-- A kind of objects is gathered from the items with their answers. -/
theorem field_madeOf (hnone : field .none = [])
    (happend : ∀ p q : Produced, field (p.append q) = field p ++ field q) (items : List Item)
    (answers : List (List String)) :
    field (madeOf d items answers) =
      (dealt Item.asks items answers).flatMap fun x => field (Item.made d x) := by
  unfold madeOf
  induction dealt Item.asks items answers with
  | nil => exact hnone
  | cons x rest ih =>
      rw [List.map_cons, Produced.join_cons, happend, ih]
      rfl

/-- A kind of objects that grants in namespaces do not give comes from the bindings alone. -/
theorem field_madeOf_items (hnone : field .none = [])
    (happend : ∀ p q : Produced, field (p.append q) = field p ++ field q)
    (hgrant : ∀ b g answer, field (Item.made d (.grant b g, answer)) = [])
    (answers : List (List String)) :
    field (madeOf d d.items answers) =
      d.bindings.flatMap fun b => field (Item.made d (.subjects b, [])) := by
  have hanswers : (fun x => field (Item.made d x)) = fun x => field (Item.made d (x.1, [])) := by
    funext ⟨i, answer⟩
    cases i with
    | grant b g => rw [hgrant, hgrant]
    | vacant | subjects | finished => rfl
  rw [field_madeOf field d hnone happend, hanswers,
    dealt_flatMap_fst Item.asks fun i => field (Item.made d (i, []))]
  unfold Definition.items
  by_cases h : d.bindings = []
  · have hvacant : field (Item.made d (.vacant, [])) = [] := hnone
    simp [h, hvacant]
  · rw [if_neg h, List.flatMap_assoc]
    refine congrArg (List.flatMap · d.bindings) (funext fun b => ?_)
    have hgrants :
        (b.namespaceGrants.flatMap fun g => field (Item.made d (.grant b g, []))) = [] := by
      simp [hgrant]
    have hfinished : field (Item.made d (.finished b, [])) = [] := hnone
    simp [Binding.items, List.flatMap_map, hgrants, hfinished]

end

/-- The items of a definition make the objects that the definition asks for. -/
theorem madeOf_items (d : Definition) (answers : List (List String)) :
    madeOf d d.items answers = d.objects answers := by
  have haccounts : (madeOf d d.items answers).serviceAccounts =
      (d.objects answers).serviceAccounts := by
    rw [field_madeOf_items Produced.serviceAccounts d rfl (fun _ _ => rfl) (fun _ _ _ => rfl)]
    simp only [Item.made, accountOf_eq]
    rfl
  have hcluster : (madeOf d d.items answers).clusterRoleBindings =
      (d.objects answers).clusterRoleBindings := by
    rw [field_madeOf_items Produced.clusterRoleBindings d rfl (fun _ _ => rfl) (fun _ _ _ => rfl)]
    simp only [Item.made, funext (clusterBindingOf_eq d _)]
    rfl
  have hasks : ∀ i : Item, i.asks = i.grant?.any fun bg => bg.2.usesSelector := by
    intro i
    cases i <;> rfl
  have hroles : (madeOf d d.items answers).roleBindings = (d.objects answers).roleBindings := by
    rw [field_madeOf Produced.roleBindings d rfl (fun _ _ => rfl), Definition.objects,
      ← items_filterMap_grant?, ← dealt_filterMap Item.grant? hasks]
    refine congrArg (List.flatMap · _) (funext fun x => ?_)
    obtain ⟨i, answer⟩ := x
    cases i with
    | grant b g =>
        simp only [Item.made, Item.grant?, roleBindingIn_eq, NamespaceGrant.targets]
        simp
    | vacant | subjects | finished => rfl
  cases hmade : madeOf d d.items answers
  simp_all

/-- The items of a definition are sound exactly when it makes sense. -/
theorem items_sound_iff (d : Definition) : (∀ i ∈ d.items, i.Sound) ↔ d.WellFormed := by
  rw [forall_mem_items d Item.Sound trivial]
  constructor
  · intro sound
    exact ⟨fun b hb => (sound b hb).1, fun b hb g hg => ((sound b hb).2.1 g hg).1,
      fun b hb g hg => ((sound b hb).2.1 g hg).2⟩
  · intro wf b hb
    exact ⟨wf.subjects b hb, fun g hg => ⟨wf.roles b hb g hg, wf.targets b hb g hg⟩, trivial⟩

/-! ## Resolving gives these objects -/

section

variable {σ : Type} {directory : Option (Directory σ)} {d : Definition} {s : σ}

/-- What a definition is resolved to are the objects that it asks for. -/
theorem eq_objects_of_resolve_eq_ok (contract : Directory.ListsNames directory s) {p : Produced}
    (h : (d.resolve directory s).result = .ok p) : ∃ answers, p = d.objects answers := by
  obtain ⟨-, answers, -, -, rfl⟩ := (resolve_eq_ok_iff_items contract p).1 h
  exact ⟨answers, madeOf_items d answers⟩

end

/-- A definition is resolved exactly when it makes sense and each of its selectors is answered when
they are asked in document order, and then to the objects that it asks for. -/
theorem resolve_eq_ok_iff_objects {σ : Type} (d : Definition) (directory : Option (Directory σ))
    (s : σ) (contract : Directory.ListsNames directory s) (p : Produced) :
    (d.resolve directory s).result = .ok p ↔ d.WellFormed ∧
      ∃ answers s', Answered directory s d.selectors answers s' ∧ p = d.objects answers := by
  rw [resolve_eq_ok_iff_items contract, items_sound_iff, selectorsOf_items]
  simp only [madeOf_items]

/-- Two bindings, with a selector that is not set and a namespace that a selector overrides. -/
def teamAccess : Definition where
  apiVersion := Definition.defaultApiVersion
  metadata := ⟨"team", some "42"⟩
  bindings := [
    { name := "dev"
      subjects := [⟨.serviceAccount, "bot", some "ci", none⟩, ⟨.user, "jo", none, none⟩]
      clusterGrants := [⟨"view"⟩]
      namespaceGrants := [
        ⟨none, some "edit", none, some ⟨some [("env", "test")], none⟩⟩,
        ⟨some "deploy", none, some "stage", some ⟨none, none⟩⟩] },
    { name := "ops"
      subjects := [⟨.group, "admins", none, none⟩]
      clusterGrants := []
      namespaceGrants := [⟨some "debug", none, some "unused", some ⟨none, some []⟩⟩] }]

/-- The first selector gets the first answer and the second one the second. -/
theorem teamAccess_resolved :
    Directory.ListsNames (some recited) [["blue", "red"], ["blue"]] ∧
      (teamAccess.resolve (some recited) [["blue", "red"], ["blue"]]).result =
        .ok (teamAccess.objects [["blue", "red"], ["blue"]]) := by
  refine ⟨recited_listsNames _, ?_⟩
  refine (resolve_eq_ok_iff_objects teamAccess (some recited) _ (recited_listsNames _) _).2
    ⟨⟨by decide, by decide, by decide⟩, _, [], ?_, rfl⟩
  exact .cons rfl rfl (.cons rfl rfl (.nil _))

end RoleGrants
