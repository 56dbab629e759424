import RoleGrants.Proofs.Resolution.Items

/-!
# What can become of an item

An item passes, with the objects it gives and the steps it adds, or it fails with an error.
`Item.Passes` and `Item.Fails` have one rule for each way this can go, and `Item.passes_or_fails`
says that there is no other way.  No proof after these looks into the code that resolves a grant.

For a whole definition the same holds of its items in order: all of them pass, or those before some
item pass and that one fails (`allPass_or_fails`).  The converses `resolve_of_allPass` and
`resolve_of_fails` turn a derivation into the outcome of the resolution.
-/

namespace RoleGrants

open RoleGrants.Schema

variable {σ α : Type}

/-! ## Grants and replies -/

/-- A grant names a role of the namespace or a cluster-wide one, and not both. -/
def NamespaceGrant.NamesOneRole (g : NamespaceGrant) : Prop := g.role.isSome ≠ g.clusterRole.isSome

instance (g : NamespaceGrant) : Decidable g.NamesOneRole :=
  inferInstanceAs (Decidable (g.role.isSome ≠ g.clusterRole.isSome))

/-- The role of a grant that names one role. -/
def NamespaceGrant.grantedRole (g : NamespaceGrant) : RoleRef :=
  match g.clusterRole with
  | some c => { kind := .clusterRole, name := c }
  | none => { kind := .role, name := g.role.getD "" }

/-- What the reply to a query comes to: members of an answer or an error. -/
def Reply.reading (q : Selector) : Reply → Except ResolutionError (List Json)
  | .lookupFailed selector reason cause => .error (.lookup selector reason cause)
  | .failed f => .error (.lookup q.query f.reasonText (some f.kind))
  | .names answer =>
    match answer.members? with
    | some members => .ok members
    | none =>
      .error (.lookup q.query (Redaction.sanitize answer.notMembersMessage) (some "TypeError"))

/-- Whether an object can be made in what a directory calls a namespace.  Null stands for no
namespace. -/
def Json.isNamespace : Json → Bool
  | .null | .text _ => true
  | _ => false

/-- The namespace that a member of an answer is. -/
def Json.namespace? : Json → Option String
  | .text n => some n
  | _ => none

/-- The steps of asking a directory, and the state it is left in. -/
def Directory.asked (directory : Option (Directory σ)) (q : Option Selector) (s : σ) :
    List Step × σ :=
  match directory, q with
  | some ask, some q => (.query q :: (ask q s).2.1.map .log, (ask q s).2.2)
  | _, _ => ([], s)

/-- The selector that an item asks with. -/
def Item.selector? : Item → Option Selector
  | .grant _ g => g.activeSelector
  | _ => none

/-- The warning of a grant whose selector takes the place of its namespace. -/
def Item.warnings : Item → List Event
  | .grant b g =>
    if g.activeSelector.isSome then g.namespaceName.toList.map (.namespaceIgnored b.name) else []
  | _ => []

/-! ## Outcomes -/

/-- From the directory state `s` an item passes: it gives objects, adds steps and leaves a state. -/
inductive Item.Passes (d : Definition) (directory : Option (Directory σ)) (s : σ) :
    Item → Produced → List Step → σ → Prop
  | vacant : Passes d directory s .vacant .none [.event .noBindings] s
  | subjects {b : Binding} (subjects : b.subjects ≠ []) :
      Passes d directory s (.subjects b)
        ⟨b.subjects.filterMap d.accountOf, [], b.clusterGrants.map (d.clusterBindingOf b)⟩ [] s
  | literal {b : Binding} {g : NamespaceGrant} {n : String} (role : g.NamesOneRole)
      (unset : g.activeSelector = none) (target : g.namespaceName = some n) :
      Passes d directory s (.grant b g) ⟨[], [d.roleBindingIn b g.grantedRole n (some n)], []⟩
        [.event (.grantResolved b.name g.grantedRole n)] s
  | selected {b : Binding} {g : NamespaceGrant} {q : Selector} {ask : Directory σ}
      {members : List Json} (role : g.NamesOneRole) (set : g.activeSelector = some q)
      (present : directory = some ask) (reply : (ask q s).1.reading q = .ok members)
      (namespaces : ∀ j ∈ members, j.isNamespace) :
      Passes d directory s (.grant b g)
        ⟨[], members.map fun j => d.roleBindingIn b g.grantedRole j.plain j.namespace?, []⟩
        ((Item.grant b g).warnings.map .event ++ (Directory.asked directory (some q) s).1
          ++ [.event (.selectorResolved b.name g.grantedRole q.query members)])
        (Directory.asked directory (some q) s).2
  | finished {b : Binding} :
      Passes d directory s (.finished b) .none
        [.event (.bindingResolved b.name b.subjects.length b.clusterGrants.length
          b.namespaceGrants.length)] s

/-- From the directory state `s` an item fails with an error. -/
inductive Item.Fails (d : Definition) (directory : Option (Directory σ)) (s : σ) :
    Item → ResolutionError → Prop
  | noSubjects {b : Binding} (subjects : b.subjects = []) :
      Fails d directory s (.subjects b) (.binding d.name b.name .noSubjects)
  | twoRoles {b : Binding} {g : NamespaceGrant} {r c : String} (role : g.role = some r)
      (clusterRole : g.clusterRole = some c) :
      Fails d directory s (.grant b g) (.binding d.name b.name (.twoRoles r c))
  | noRole {b : Binding} {g : NamespaceGrant} (role : g.role = none)
      (clusterRole : g.clusterRole = none) :
      Fails d directory s (.grant b g) (.binding d.name b.name .noRole)
  | noTarget {b : Binding} {g : NamespaceGrant} (role : g.NamesOneRole)
      (unset : g.activeSelector = none) (target : g.namespaceName = none) :
      Fails d directory s (.grant b g) (.binding d.name b.name .noTarget)
  | noDirectory {b : Binding} {g : NamespaceGrant} {q : Selector} (role : g.NamesOneRole)
      (set : g.activeSelector = some q) (absent : directory = none) :
      Fails d directory s (.grant b g)
        (.lookup q.query "no namespace directory configured" none)
  | lookup {b : Binding} {g : NamespaceGrant} {q : Selector} {ask : Directory σ}
      {e : ResolutionError} (role : g.NamesOneRole) (set : g.activeSelector = some q)
      (present : directory = some ask) (reply : (ask q s).1.reading q = .error e) :
      Fails d directory s (.grant b g) e
  | badNamespace {b : Binding} {g : NamespaceGrant} {q : Selector} {ask : Directory σ}
      {members : List Json} (role : g.NamesOneRole) (set : g.activeSelector = some q)
      (present : directory = some ask) (reply : (ask q s).1.reading q = .ok members)
      (misnamed : ∃ j ∈ members, j.isNamespace = false) :
      Fails d directory s (.grant b g) (.badNamespace [⟨["namespace"], .notText⟩])

/-- Whether an error was found before any directory was asked. -/
def ResolutionError.isStatic : ResolutionError → Bool
  | .binding _ _ _ => true
  | _ => false

/-- The steps of an item that fails: none if what is wrong is seen in the definition, else the
warning and the query. -/
def Item.lastSteps (directory : Option (Directory σ)) (s : σ) (i : Item) (e : ResolutionError) :
    List Step :=
  if e.isStatic then []
  else i.warnings.map .event ++ (Directory.asked directory i.selector? s).1

/-- The directory state after an item that fails. -/
def Item.lastState (directory : Option (Directory σ)) (s : σ) (i : Item) (e : ResolutionError) :
    σ :=
  if e.isStatic then s else (Directory.asked directory i.selector? s).2

theorem Item.lastSteps_of_not_isStatic (directory : Option (Directory σ)) (s : σ) (i : Item)
    {e : ResolutionError} (h : e.isStatic = false) :
    i.lastSteps directory s e =
      i.warnings.map .event ++ (Directory.asked directory i.selector? s).1 := by
  simp [lastSteps, h]

theorem Item.lastState_of_not_isStatic (directory : Option (Directory σ)) (s : σ) (i : Item)
    {e : ResolutionError} (h : e.isStatic = false) :
    i.lastState directory s e = (Directory.asked directory i.selector? s).2 := by
  simp [lastState, h]

/-- From the directory state `s` all of some items pass. -/
inductive AllPass (d : Definition) (directory : Option (Directory σ)) :
    σ → List Item → Produced → List Step → σ → Prop
  | nil (s : σ) : AllPass d directory s [] .none [] s
  | cons {s s₁ s₂ : σ} {i : Item} {rest : List Item} {p q : Produced} {new more : List Step}
      (first : i.Passes d directory s p new s₁) (others : AllPass d directory s₁ rest q more s₂) :
      AllPass d directory s (i :: rest) (p.append q) (new ++ more) s₂

/-! ## Lookups -/

/-- A reply that is no answer comes to an error of a lookup. -/
theorem exists_eq_lookup_of_reading {q : Selector} {reply : Reply} {e : ResolutionError}
    (h : reply.reading q = .error e) :
    ∃ selector reason cause, e = .lookup selector reason cause := by
  cases reply with
  | lookupFailed => cases h; exact ⟨_, _, _, rfl⟩
  | failed => cases h; exact ⟨_, _, _, rfl⟩
  | names answer =>
      cases members : answer.members? with
      | none => simp only [Reply.reading, members] at h; cases h; exact ⟨_, _, _, rfl⟩
      | some _ => simp only [Reply.reading, members] at h; cases h

theorem runs_liftExcept (r : Except ResolutionError α) (s : σ) :
    Runs (Definition.resolveGrant.liftExcept r) s r [] s := by
  cases r with
  | ok a => exact .pure a s
  | error e => exact .throw e s

theorem lookUp_eq (ask : Directory σ) (q : Selector) :
    lookUp (some ask) q = (do
      note (.query q)
      let t ← get
      modify fun t' => { t' with directory := (ask q t.directory).2.2 }
      (ask q t.directory).2.1.forM fun r => note (.log r)
      Definition.resolveGrant.liftExcept ((ask q t.directory).1.reading q)) := by
  simp only [lookUp]
  refine bind_congr fun _ => bind_congr fun t => bind_congr fun _ => bind_congr fun _ => ?_
  cases (ask q t.directory).1 with
  | lookupFailed | failed => rfl
  | names answer => cases h : answer.members? <;> simp only [Reply.reading, h] <;> rfl

@[simp] theorem eventsOf_asked (directory : Option (Directory σ)) (q : Option Selector) (s : σ) :
    eventsOf (Directory.asked directory q s).1 = [] := by
  cases directory <;> cases q <;> simp [Directory.asked, eventsOf]

/-- A query is noted, the directory logs, and its reply is read. -/
theorem runs_lookUp (ask : Directory σ) (q : Selector) (s : σ) :
    Runs (lookUp (some ask) q) s ((ask q s).1.reading q) (Directory.asked (some ask) (some q) s).1
      (Directory.asked (some ask) (some q) s).2 := by
  have hreply : Runs ((ask q s).2.1.forM (fun r => note (.log r)) >>= fun _ =>
      Definition.resolveGrant.liftExcept ((ask q s).1.reading q)) (ask q s).2.2
      ((ask q s).1.reading q) ((ask q s).2.1.map .log ++ []) (ask q s).2.2 :=
    .bind (.notes (fun _ => rfl) _ _) (runs_liftExcept _ _)
  have hsteps : (Directory.asked (some ask) (some q) s).1 =
      [.query q] ++ ((ask q s).2.1.map .log ++ []) := by simp [Directory.asked]
  rw [lookUp_eq, hsteps]
  -- Past the query the trail holds it and the directory's new state.
  exact hreply.after fun _ _ => rfl

/-! ## Grants -/

section

variable (d : Definition) (b : Binding)

theorem roleRef_eq_ok {g : NamespaceGrant} (h : g.NamesOneRole) :
    d.roleRef b g = .ok g.grantedRole := by
  unfold NamespaceGrant.NamesOneRole at h
  unfold Definition.roleRef NamespaceGrant.grantedRole
  cases hr : g.role <;> cases hc : g.clusterRole <;> simp_all

theorem roleBindingAt_eq_ok (role : RoleRef) {j : Json} (h : j.isNamespace) :
    d.roleBindingAt b role j = .ok (d.roleBindingIn b role j.plain j.namespace?) := by
  cases j with
  | null | text => rfl
  | _ => cases h

theorem roleBindingAt_eq_error (role : RoleRef) {j : Json} (h : j.isNamespace = false) :
    d.roleBindingAt b role j = .error (.badNamespace [⟨["namespace"], .notText⟩]) := by
  cases j with
  | null | text => cases h
  | _ => rfl

theorem mapM_roleBindingAt_eq_ok (role : RoleRef) {members : List Json}
    (h : ∀ j ∈ members, j.isNamespace) :
    members.mapM (d.roleBindingAt b role) =
      .ok (members.map fun j => d.roleBindingIn b role j.plain j.namespace?) := by
  induction members with
  | nil => rfl
  | cons j rest ih =>
      rw [List.mapM_cons, roleBindingAt_eq_ok d b role (h j List.mem_cons_self),
        ih fun j' hj' => h j' (List.mem_cons_of_mem j hj')]
      rfl

theorem mapM_roleBindingAt_eq_error (role : RoleRef) {members : List Json}
    (h : ∃ j ∈ members, j.isNamespace = false) :
    members.mapM (d.roleBindingAt b role) = .error (.badNamespace [⟨["namespace"], .notText⟩]) := by
  induction members with
  | nil => simp at h
  | cons j rest ih =>
      rw [List.mapM_cons]
      cases hj : j.isNamespace with
      | false => rw [roleBindingAt_eq_error d b role hj]; rfl
      | true =>
          rw [roleBindingAt_eq_ok d b role hj, ih (by simpa [hj] using h)]
          rfl

variable (directory : Option (Directory σ))

theorem runs_resolveItem_grant {g : NamespaceGrant} {s s' : σ}
    {r : Except ResolutionError (List RoleBinding)} {new : List Step}
    (h : Runs (d.resolveGrant b directory g) s r new s') :
    Runs (d.resolveItem directory (.grant b g)) s (r.map fun made => ⟨[], made, []⟩) new s' := by
  unfold Definition.resolveItem
  rw [bind_pure_comp]
  exact h.map _

theorem resolveGrant_literal {g : NamespaceGrant} {n : String} (role : g.NamesOneRole)
    (unset : g.activeSelector = none) (target : g.namespaceName = some n) :
    d.resolveGrant b directory g = (do
      emit (.grantResolved b.name g.grantedRole n)
      return [d.roleBindingIn b g.grantedRole n (some n)]) := by
  simp only [Definition.resolveGrant, roleRef_eq_ok d b role, unset, target]
  rfl

theorem resolveGrant_noTarget {g : NamespaceGrant} (role : g.NamesOneRole)
    (unset : g.activeSelector = none) (target : g.namespaceName = none) :
    d.resolveGrant b directory g = throw (.binding d.name b.name .noTarget) := by
  simp only [Definition.resolveGrant, roleRef_eq_ok d b role, unset, target]
  rfl

/-- A grant with a selector warns, looks up, makes its role bindings, and tells of them. -/
theorem resolveGrant_selected {g : NamespaceGrant} {q : Selector} (role : g.NamesOneRole)
    (set : g.activeSelector = some q) :
    d.resolveGrant b directory g = (do
      (Item.grant b g).warnings.forM emit
      let members ← lookUp directory q
      let made ← Definition.resolveGrant.liftExcept
        (members.mapM (d.roleBindingAt b g.grantedRole))
      emit (.selectorResolved b.name g.grantedRole q.query members)
      return made) := by
  simp only [Definition.resolveGrant, roleRef_eq_ok d b role, set, Item.warnings]
  cases g.namespaceName <;> rfl

theorem runs_resolveGrant_of_error {g : NamespaceGrant} {e : ResolutionError}
    (h : d.roleRef b g = .error e) (s : σ) :
    Runs (d.resolveGrant b directory g) s (.error e) [] s := by
  unfold Definition.resolveGrant
  rw [h]
  exact .bind_error (.throw e s)

theorem runs_warnings (i : Item) (s : σ) :
    Runs (i.warnings.forM emit) s (.ok ()) (i.warnings.map .event) s := by
  induction i.warnings with
  | nil => exact .pure () s
  | cons e rest ih => exact .bind (.emit e s) ih

end

/-! ## Items -/

variable {d : Definition} {directory : Option (Directory σ)}

theorem Item.Passes.runs {i : Item} {s s' : σ} {p : Produced} {new : List Step}
    (h : i.Passes d directory s p new s') :
    Runs (d.resolveItem directory i) s (.ok p) new s' := by
  cases h with
  | vacant => exact .bind (.emit _ s) (.pure _ s)
  | @subjects b hb =>
      rw [Definition.resolveItem, if_neg (by simpa using hb)]
      exact .pure _ s
  | @literal b g n role unset target =>
      refine runs_resolveItem_grant d b directory (r := .ok _) ?_
      rw [resolveGrant_literal d b directory role unset target]
      exact .bind (.emit _ s) (.pure _ s)
  | @selected b g q ask members role set present reply namespaces =>
      subst present
      refine runs_resolveItem_grant d b _ (r := .ok _) ?_
      rw [resolveGrant_selected d b _ role set, List.append_assoc]
      have hlook := runs_lookUp ask q s
      rw [reply] at hlook
      refine .bind (runs_warnings _ s) (.bind hlook ?_)
      rw [mapM_roleBindingAt_eq_ok d b _ namespaces]
      exact .bind (runs_liftExcept _ _) (.bind (.emit _ _) (.pure _ _))
  | finished => exact .bind (.emit _ s) (.pure _ s)

theorem Item.Fails.runs {i : Item} {s : σ} {e : ResolutionError} (h : i.Fails d directory s e) :
    Runs (d.resolveItem directory i) s (.error e) (i.lastSteps directory s e)
      (i.lastState directory s e) := by
  cases h with
  | noSubjects hb =>
      rw [Definition.resolveItem, if_pos (by simpa using hb)]
      exact .throw _ s
  | @twoRoles b g r c role clusterRole =>
      refine runs_resolveItem_grant d b directory (r := .error _) ?_
      exact runs_resolveGrant_of_error d b directory (by simp [Definition.roleRef, *]) s
  | @noRole b g role clusterRole =>
      refine runs_resolveItem_grant d b directory (r := .error _) ?_
      exact runs_resolveGrant_of_error d b directory (by simp [Definition.roleRef, *]) s
  | @noTarget b g role unset target =>
      refine runs_resolveItem_grant d b directory (r := .error _) ?_
      rw [resolveGrant_noTarget d b directory role unset target]
      exact .throw _ s
  | @noDirectory b g q role set absent =>
      subst absent
      refine runs_resolveItem_grant d b none (r := .error _) ?_
      rw [resolveGrant_selected d b none role set]
      exact .bind (runs_warnings _ s) (.bind_error (.throw _ s))
  | @lookup b g q ask e role set present reply =>
      subst present
      refine runs_resolveItem_grant d b _ (r := .error _) ?_
      obtain ⟨selector, reason, cause, rfl⟩ := exists_eq_lookup_of_reading reply
      rw [resolveGrant_selected d b _ role set, lastSteps_of_not_isStatic _ _ _ rfl,
        lastState_of_not_isStatic _ _ _ rfl]
      have hlook := runs_lookUp ask q s
      rw [reply, ← set] at hlook
      exact .bind (runs_warnings _ s) (.bind_error hlook)
  | @badNamespace b g q ask members role set present reply misnamed =>
      subst present
      refine runs_resolveItem_grant d b _ (r := .error _) ?_
      rw [resolveGrant_selected d b _ role set, lastSteps_of_not_isStatic _ _ _ rfl,
        lastState_of_not_isStatic _ _ _ rfl, ← List.append_nil (_ ++ _), List.append_assoc]
      have hlook := runs_lookUp ask q s
      rw [reply, ← set] at hlook
      refine .bind (runs_warnings _ s) (.bind hlook ?_)
      rw [mapM_roleBindingAt_eq_error d b _ misnamed]
      exact .bind_error (.throw _ _)

/-- An item passes or fails; there is no other way. -/
theorem Item.passes_or_fails (d : Definition) (directory : Option (Directory σ)) (i : Item)
    (s : σ) : (∃ p new s', i.Passes d directory s p new s') ∨ ∃ e, i.Fails d directory s e := by
  cases i with
  | vacant => exact .inl ⟨_, _, _, .vacant⟩
  | finished b => exact .inl ⟨_, _, _, .finished⟩
  | subjects b =>
      by_cases h : b.subjects = []
      · exact .inr ⟨_, .noSubjects h⟩
      · exact .inl ⟨_, _, _, .subjects h⟩
  | grant b g =>
      by_cases role : g.NamesOneRole
      · cases set : g.activeSelector with
        | none =>
            cases target : g.namespaceName with
            | none => exact .inr ⟨_, .noTarget role set target⟩
            | some n => exact .inl ⟨_, _, _, .literal role set target⟩
        | some q =>
            cases directory with
            | none => exact .inr ⟨_, .noDirectory role set rfl⟩
            | some ask =>
                cases reply : (ask q s).1.reading q with
                | error e => exact .inr ⟨_, .lookup role set rfl reply⟩
                | ok members =>
                    by_cases namespaces : ∀ j ∈ members, j.isNamespace
                    · exact .inl ⟨_, _, _, .selected role set rfl reply namespaces⟩
                    · exact .inr ⟨_, .badNamespace role set rfl reply (by simpa using namespaces)⟩
      · cases hr : g.role <;> cases hc : g.clusterRole <;>
          simp only [NamespaceGrant.NamesOneRole, hr, hc, Option.isSome, ne_eq, not_true_eq_false,
            not_false_eq_true, reduceCtorEq] at role
        · exact .inr ⟨_, .noRole hr hc⟩
        · exact .inr ⟨_, .twoRoles hr hc⟩

/-! ## Lists of items -/

theorem AllPass.runs {items : List Item} {s s' : σ} {p : Produced} {new : List Step}
    (h : AllPass d directory s items p new s') :
    Runs (d.resolveItems directory items) s (.ok p) new s' := by
  induction h with
  | nil s => exact .pure _ s
  | @cons s s₁ s₂ i rest p q new more first _ ih =>
      rw [← List.append_nil more]
      exact first.runs.bind (ih.bind (.pure (p.append q) s₂))

/-- What comes before an item that fails is kept, and what comes after it is not reached. -/
theorem Item.Fails.runs_after {earlier : List Item} {i : Item} (later : List Item) {s s₁ : σ}
    {p : Produced} {new : List Step} {e : ResolutionError}
    (before : AllPass d directory s earlier p new s₁) (h : i.Fails d directory s₁ e) :
    Runs (d.resolveItems directory (earlier ++ i :: later)) s (.error e)
      (new ++ i.lastSteps directory s₁ e) (i.lastState directory s₁ e) := by
  rw [Definition.resolveItems_append]
  exact before.runs.bind (.bind_error (.bind_error h.runs))

/-- All of some items pass, or there is a first one that fails. -/
theorem allPass_or_fails (d : Definition) (directory : Option (Directory σ)) (items : List Item)
    (s : σ) : (∃ p new s', AllPass d directory s items p new s') ∨
      ∃ earlier i later p new s₁ e, items = earlier ++ i :: later ∧
        AllPass d directory s earlier p new s₁ ∧ i.Fails d directory s₁ e := by
  induction items generalizing s with
  | nil => exact .inl ⟨_, _, _, .nil s⟩
  | cons i rest ih =>
      rcases i.passes_or_fails d directory s with ⟨p, new, s₁, first⟩ | ⟨e, failure⟩
      · rcases ih s₁ with ⟨q, more, s₂, others⟩ | ⟨earlier, i', later, q, more, s₂, e, hrest,
          others, failure⟩
        · exact .inl ⟨_, _, _, .cons first others⟩
        · exact .inr ⟨i :: earlier, i', later, _, _, _, e, by rw [hrest]; rfl,
            .cons first others, failure⟩
      · exact .inr ⟨[], i, rest, _, _, _, e, rfl, .nil s, failure⟩

/-! ## Definitions -/

theorem resolve_of_allPass {s s' : σ} {p : Produced} {new : List Step}
    (h : AllPass d directory s d.items p new s') : d.resolve directory s = ⟨.ok p, new, s'⟩ := by
  refine Runs.resolve ?_
  rw [Definition.resolveAll_eq]
  exact h.runs

theorem resolve_of_fails {earlier : List Item} {i : Item} {later : List Item} {s s₁ : σ}
    {p : Produced} {new : List Step} {e : ResolutionError}
    (items : d.items = earlier ++ i :: later) (before : AllPass d directory s earlier p new s₁)
    (h : i.Fails d directory s₁ e) :
    d.resolve directory s =
      ⟨.error e, new ++ i.lastSteps directory s₁ e, i.lastState directory s₁ e⟩ := by
  refine Runs.resolve ?_
  rw [Definition.resolveAll_eq, items]
  exact h.runs_after later before

/-- A resolution is a run of all bindings. -/
theorem runs_resolveAll (d : Definition) (directory : Option (Directory σ)) (s : σ) :
    Runs (d.resolveAll directory) s (d.resolve directory s).result (d.resolve directory s).steps
      (d.resolve directory s).directory := by
  rcases allPass_or_fails d directory d.items s with ⟨p, new, s', pass⟩ | ⟨earlier, i, later, p,
    new, s₁, e, items, before, failure⟩
  · rw [resolve_of_allPass pass, Definition.resolveAll_eq]
    exact pass.runs
  · rw [resolve_of_fails items before failure, Definition.resolveAll_eq, items]
    exact failure.runs_after later before

/-- The result of a resolution holds the objects that were made and the events that were told, and
there is none where the resolution fails. -/
theorem resolved_eq (d : Definition) (directory : Option (Directory σ)) (s : σ) :
    d.resolved directory s = (d.resolve directory s).result.map fun p =>
      ⟨d.name, p, (d.resolve directory s).events⟩ :=
  (runs_resolveAll d directory s).resolved

/-- If a definition is resolved then all of its items pass. -/
theorem allPass_of_resolve_eq_ok {s : σ} {p : Produced}
    (h : (d.resolve directory s).result = .ok p) :
    ∃ new s', AllPass d directory s d.items p new s' := by
  rcases allPass_or_fails d directory d.items s with ⟨q, new, s', pass⟩ | ⟨earlier, i, later, q,
    new, s₁, e, items, before, failure⟩
  · rw [resolve_of_allPass pass] at h
    cases h
    exact ⟨new, s', pass⟩
  · rw [resolve_of_fails items before failure] at h
    cases h

end RoleGrants
