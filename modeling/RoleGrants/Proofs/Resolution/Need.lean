import RoleGrants.CommandLine.Run
import RoleGrants.Proofs.Resolution.Alike

/-!
# When a directory is needed

Whether a definition needs a directory is decided before it is resolved, by looking for a grant with
a selector that is set.  The resolution looks again, grant by grant, and may end before it comes to
that grant.  `usesSelectors_decides_need` says that the early decision is right all the same: where
it is no, no directory can make a difference, and where it is yes, there is no result without one.
-/

namespace RoleGrants

open RoleGrants.CommandLine

variable {σ τ : Type} {d : Definition}

/-! ## Definitions without selectors -/

theorem usesSelectors_eq_false_iff (d : Definition) :
    d.usesSelectors = false ↔ d.selectors = [] := by
  unfold Definition.usesSelectors Definition.selectors Definition.grants
  rw [List.filterMap_flatMap]
  simp [NamespaceGrant.usesSelector, List.filterMap_map, List.filterMap_eq_nil_iff]

/-- Any two directories are alike to a definition that has nothing to ask, and stay as they are. -/
theorem alike_of_selectors_eq_nil (h : d.selectors = []) (directory : Option (Directory σ))
    (other : Option (Directory τ)) (s : σ) :
    ∀ q ∈ d.selectors, Directory.Alike (fun s' _ => s' = s) directory other q := by
  simp [h]

/-! ## Resolutions without a directory -/

theorem Item.Passes.unasked {i : Item} {s s' : σ} {p : Produced} {new : List Step}
    (h : i.Passes d none s p new s') : i.selector? = none ∧ queriesOf new = [] := by
  cases h with
  | vacant | subjects | finished => exact ⟨rfl, rfl⟩
  | literal _ unset _ => exact ⟨unset, rfl⟩
  | selected _ _ present _ _ => cases present

/-- Items that pass without a directory ask for nothing. -/
theorem AllPass.unasked {items : List Item} {s s' : σ} {p : Produced} {new : List Step}
    (h : AllPass d none s items p new s') : selectorsOf items = [] ∧ queriesOf new = [] := by
  induction h with
  | nil => exact ⟨rfl, rfl⟩
  | cons first _ ih =>
      obtain ⟨hselector, hfirst⟩ := first.unasked
      obtain ⟨hselectors, hothers⟩ := ih
      rw [selectorsOf_cons, hselector, hselectors, queriesOf_append, hfirst, hothers]
      exact ⟨rfl, rfl⟩

/-- Without a directory nothing is asked. -/
theorem queries_without_directory (d : Definition) (s : σ) : (d.resolve none s).queries = [] := by
  rcases allPass_or_fails d none d.items s with ⟨p, new, s', pass⟩ | ⟨earlier, i, later, p, new,
    s₁, e, items, before, failure⟩
  · rw [resolve_of_allPass pass]
    exact pass.unasked.2
  · rw [resolve_of_fails items before failure, queries_run, queriesOf_append, before.unasked.2]
    unfold Item.lastSteps
    cases e.isStatic with
    | true => rfl
    | false => simp [queriesOf_asked]

/-- Without a directory a definition that has something to ask is not resolved. -/
theorem not_resolved_without_directory (h : d.selectors ≠ []) (s : σ) (p : Produced) :
    (d.resolve none s).result ≠ .ok p := by
  intro hok
  obtain ⟨new, s', pass⟩ := allPass_of_resolve_eq_ok hok
  exact h (selectorsOf_items d ▸ pass.unasked.1)

/-! ## The decision -/

/-- A definition that uses no selectors asks nothing of any directory, and leads to the same result
or error, events and audit events with every two, and so does the command, which gives it none.  A
definition that uses selectors has no result without a directory. -/
theorem usesSelectors_decides_need (d : Definition) :
    (d.usesSelectors = false → ∀ {σ τ : Type} (directory : Option (Directory σ))
      (other : Option (Directory τ)) (s : σ) (t : τ),
      (d.resolve directory s).queries = [] ∧ (d.resolve directory s).directory = s ∧
      d.resolved directory s = d.resolved other t ∧
      (d.resolve directory s).events = (d.resolve other t).events ∧
      (∀ c, (d.traced c directory s).audits = (d.traced c other t).audits) ∧
      ∀ env files request, request.namespaceLabels = none →
        resolveFor env files request d = .ok (.ofRun (d.traced .invalid directory s) [])) ∧
    (d.usesSelectors = true → ∀ {σ : Type} (s : σ) (r : Definition.Result),
      d.resolved none s ≠ .ok r) := by
  constructor
  · intro unused σ τ directory other s t
    have hselectors := (usesSelectors_eq_false_iff d).1 unused
    have halike := alike_of_selectors_eq_nil hselectors directory other s
    have hbare := alike_of_selectors_eq_nil (τ := Unit) hselectors directory none s
    obtain ⟨-, hsteps, hstate⟩ := resolve_alike halike (t := t) rfl
    obtain ⟨-, hbareSteps, -⟩ := resolve_alike hbare (t := ()) rfl
    refine ⟨?_, hstate, resolved_alike halike rfl, congrArg eventsOf hsteps, fun c => ?_, ?_⟩
    · calc
        (d.resolve directory s).queries = (d.resolve none ()).queries :=
          congrArg queriesOf hbareSteps
        _ = [] := queries_without_directory d ()
    · exact congrArg auditsOf (traced_alike halike (t := t) rfl c).2.1
    · intro env files request unlabelled
      obtain ⟨hresult, htraced, -⟩ := traced_alike hbare (t := ()) rfl .invalid
      simp only [resolveFor, unlabelled, unused, Resolved.ofRun, hresult, htraced]
      rfl
  · intro used σ s r hok
    have hselectors : d.selectors ≠ [] := by
      rw [ne_eq, ← usesSelectors_eq_false_iff, used]
      exact Bool.noConfusion
    rw [resolved_eq] at hok
    cases hresult : (d.resolve none s).result with
    | ok p => exact not_resolved_without_directory hselectors s p hresult
    | error e =>
        rw [hresult] at hok
        cases hok

/-- A grant in a namespace whose selector is not set, and nothing else. -/
def literalAccess : Definition where
  apiVersion := Definition.defaultApiVersion
  metadata := ⟨"team", none⟩
  bindings := [
    { name := "dev"
      subjects := [⟨.user, "jo", none, none⟩]
      clusterGrants := []
      namespaceGrants := [⟨some "edit", none, some "stage", some ⟨none, none⟩⟩] }]

/-- The selector that is not set does not count, and one that is set and empty does. -/
theorem literalAccess_needs_none :
    literalAccess.usesSelectors = false ∧
      literalAccess.resolved (some recited) [] = literalAccess.resolved none () ∧
      teamAccess.usesSelectors = true ∧ ∀ r, teamAccess.resolved none () ≠ .ok r :=
  ⟨rfl, ((usesSelectors_decides_need literalAccess).1 rfl (some recited) none [] ()).2.2.1, rfl,
    (usesSelectors_decides_need teamAccess).2 rfl ()⟩

end RoleGrants
