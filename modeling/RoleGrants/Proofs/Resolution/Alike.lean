import RoleGrants.Proofs.Resolution.Objects
import RoleGrants.Proofs.Trace.Traced

/-!
# Directories that are alike

All that a resolution learns from a directory are the replies to the selectors it asks with, and all
that it passes on besides is what the directory logs.  Two directories that reply and log the same
to these selectors, and go on doing so, are therefore one and the same to it.

`Directory.Alike` says this of a single query, between states that are related, and
`resolve_alike` says what follows for a whole definition.  Only the selectors of the definition
count: where it has none, any two directories are alike, and having one is like having none.
-/

namespace RoleGrants

variable {σ τ : Type} {related : σ → τ → Prop}

/-- Asked with a selector in related states, two directories reply and log the same and are left in
related states.  A missing directory is alike to a missing one. -/
def Directory.Alike (related : σ → τ → Prop) (directory : Option (Directory σ))
    (other : Option (Directory τ)) (q : Selector) : Prop :=
  match directory, other with
  | some ask, some ask' => ∀ s t, related s t →
      (ask q s).1 = (ask' q t).1 ∧ (ask q s).2.1 = (ask' q t).2.1 ∧
        related (ask q s).2.2 (ask' q t).2.2
  | none, none => True
  | _, _ => False

section

variable {d : Definition} {directory : Option (Directory σ)} {other : Option (Directory τ)}
  {s : σ} {t : τ}

/-! ## Queries -/

/-- The steps of asking are the same, and the states they lead to are related. -/
theorem Directory.Alike.asked {q : Option Selector}
    (alike : ∀ q' ∈ q, Directory.Alike related directory other q') (start : related s t) :
    (Directory.asked directory q s).1 = (Directory.asked other q t).1 ∧
      related (Directory.asked directory q s).2 (Directory.asked other q t).2 := by
  cases q with
  | none =>
      have hleft : Directory.asked directory none s = ([], s) := by cases directory <;> rfl
      have hright : Directory.asked other none t = ([], t) := by cases other <;> rfl
      rw [hleft, hright]
      exact ⟨rfl, start⟩
  | some q =>
      have hq := alike q rfl
      match directory, other with
      | none, none => exact ⟨rfl, start⟩
      | none, some _ => exact hq.elim
      | some _, none => exact hq.elim
      | some ask, some ask' =>
          obtain ⟨-, hlog, hnext⟩ := hq s t start
          refine ⟨?_, hnext⟩
          simp only [Directory.asked, hlog]

/-- Where one directory is there the other is, and its reply is the same. -/
theorem Directory.Alike.reply {q : Selector} {ask : Directory σ}
    (alike : Directory.Alike related (some ask) other q) (start : related s t) :
    ∃ ask', other = some ask' ∧ (ask' q t).1 = (ask q s).1 := by
  cases other with
  | none => exact alike.elim
  | some ask' => exact ⟨ask', rfl, (alike s t start).1.symm⟩

/-! ## Items -/

/-- An item that passes with one directory passes with the other, to the same effect. -/
theorem Item.Passes.alike {i : Item} {s' : σ} {p : Produced} {new : List Step}
    (h : i.Passes d directory s p new s')
    (alike : ∀ q ∈ i.selector?, Directory.Alike related directory other q) (start : related s t) :
    ∃ t', i.Passes d other t p new t' ∧ related s' t' := by
  cases h with
  | vacant => exact ⟨t, .vacant, start⟩
  | subjects hb => exact ⟨t, .subjects hb, start⟩
  | literal role unset target => exact ⟨t, .literal role unset target, start⟩
  | finished => exact ⟨t, .finished, start⟩
  | @selected b g q ask members role set present reply namespaces =>
      subst present
      have hq := alike q set
      obtain ⟨ask', hother, hreply⟩ := hq.reply start
      rw [← hreply] at reply
      have halike : ∀ q' ∈ some q, Directory.Alike related (some ask) other q' := by
        rintro _ ⟨⟩
        exact hq
      obtain ⟨hsteps, hnext⟩ := Directory.Alike.asked halike start
      rw [hsteps]
      exact ⟨_, .selected role set hother reply namespaces, hnext⟩

/-- An item that fails with one directory fails with the other, with the same error. -/
theorem Item.Fails.alike {i : Item} {e : ResolutionError} (h : i.Fails d directory s e)
    (alike : ∀ q ∈ i.selector?, Directory.Alike related directory other q) (start : related s t) :
    i.Fails d other t e := by
  cases h with
  | noSubjects hb => exact .noSubjects hb
  | twoRoles role clusterRole => exact .twoRoles role clusterRole
  | noRole role clusterRole => exact .noRole role clusterRole
  | noTarget role unset target => exact .noTarget role unset target
  | @noDirectory b g q role set absent =>
      subst absent
      have hq := alike q set
      cases other with
      | none => exact .noDirectory role set rfl
      | some _ => exact hq.elim
  | @lookup b g q ask e role set present reply =>
      subst present
      obtain ⟨ask', hother, hreply⟩ := (alike q set).reply start
      exact .lookup role set hother (hreply ▸ reply)
  | @badNamespace b g q ask members role set present reply misnamed =>
      subst present
      obtain ⟨ask', hother, hreply⟩ := (alike q set).reply start
      exact .badNamespace role set hother (hreply ▸ reply) misnamed

/-- What an item that fails leaves behind is the same with both directories. -/
theorem Item.lastSteps_alike (i : Item) (e : ResolutionError)
    (alike : ∀ q ∈ i.selector?, Directory.Alike related directory other q) (start : related s t) :
    i.lastSteps directory s e = i.lastSteps other t e ∧
      related (i.lastState directory s e) (i.lastState other t e) := by
  obtain ⟨hsteps, hnext⟩ := Directory.Alike.asked alike start
  unfold Item.lastSteps Item.lastState
  rw [hsteps]
  cases e.isStatic with
  | true => exact ⟨rfl, start⟩
  | false => exact ⟨rfl, hnext⟩

/-! ## Definitions -/

/-- Items that all pass with one directory all pass with the other. -/
theorem AllPass.alike {items : List Item} {s' : σ} {p : Produced} {new : List Step}
    (h : AllPass d directory s items p new s')
    (alike : ∀ q ∈ selectorsOf items, Directory.Alike related directory other q)
    (start : related s t) : ∃ t', AllPass d other t items p new t' ∧ related s' t' := by
  induction h generalizing t with
  | nil s => exact ⟨t, .nil t, start⟩
  | @cons s s₁ s₂ i rest p q new more first _ ih =>
      rw [selectorsOf_cons] at alike
      have hfirst : ∀ q ∈ i.selector?, Directory.Alike related directory other q :=
        fun q hq => alike q (List.mem_append_left _ (Option.mem_toList.2 hq))
      have hrest : ∀ q ∈ selectorsOf rest, Directory.Alike related directory other q :=
        fun q hq => alike q (List.mem_append_right _ hq)
      obtain ⟨t₁, first', hnext⟩ := first.alike hfirst start
      obtain ⟨t₂, others', hlast⟩ := ih hrest hnext
      exact ⟨t₂, .cons first' others', hlast⟩

/-- A definition is resolved to the same, by the same steps, with directories that are alike for
its selectors. -/
theorem resolve_alike (alike : ∀ q ∈ d.selectors, Directory.Alike related directory other q)
    (start : related s t) :
    (d.resolve directory s).result = (d.resolve other t).result ∧
      (d.resolve directory s).steps = (d.resolve other t).steps ∧
      related (d.resolve directory s).directory (d.resolve other t).directory := by
  rw [← selectorsOf_items] at alike
  rcases allPass_or_fails d directory d.items s with ⟨p, new, s', pass⟩ | ⟨earlier, i, later, p,
    new, s₁, e, items, before, failure⟩
  · obtain ⟨t', pass', hlast⟩ := pass.alike alike start
    rw [resolve_of_allPass pass, resolve_of_allPass pass']
    exact ⟨rfl, rfl, hlast⟩
  · rw [items, selectorsOf, List.filterMap_append, List.filterMap_cons] at alike
    have hearlier : ∀ q ∈ selectorsOf earlier, Directory.Alike related directory other q :=
      fun q hq => alike q (List.mem_append_left _ hq)
    have hitem : ∀ q ∈ i.selector?, Directory.Alike related directory other q := by
      intro q hq
      refine alike q (List.mem_append_right _ ?_)
      rw [Option.mem_def.1 hq]
      exact List.mem_cons_self
    obtain ⟨t₁, before', hnext⟩ := before.alike hearlier start
    obtain ⟨hsteps, hlast⟩ := i.lastSteps_alike e hitem hnext
    rw [resolve_of_fails items before failure,
      resolve_of_fails items before' (failure.alike hitem hnext), hsteps]
    exact ⟨rfl, rfl, hlast⟩

/-- The results hold the same objects and events. -/
theorem resolved_alike (alike : ∀ q ∈ d.selectors, Directory.Alike related directory other q)
    (start : related s t) : d.resolved directory s = d.resolved other t := by
  obtain ⟨hresult, hsteps, -⟩ := resolve_alike alike start
  have hevents : (d.resolve directory s).events = (d.resolve other t).events :=
    congrArg eventsOf hsteps
  rw [resolved_eq, resolved_eq, hresult, hevents]

/-- The same is told of it as a whole. -/
theorem traced_alike (alike : ∀ q ∈ d.selectors, Directory.Alike related directory other q)
    (start : related s t) (c : SpanContext) :
    (d.traced c directory s).result = (d.traced c other t).result ∧
      (d.traced c directory s).steps = (d.traced c other t).steps ∧
      related (d.traced c directory s).directory (d.traced c other t).directory := by
  obtain ⟨hresult, hsteps, hlast⟩ := resolve_alike alike start
  rw [traced_eq, traced_eq, hresult, hsteps]
  exact ⟨rfl, rfl, hlast⟩

end

end RoleGrants
