import RoleGrants.Proofs.Resolution.Objects

/-!
# The first thing that is wrong

A resolution that fails has met the first item that fails, in document order.  The items before it
have had all of their effects: their selectors were asked for and everything was told of them.  Of
the item itself nothing is seen if what is wrong with it stands in the definition; if its lookup
failed, the warning on its namespace was given, and the directory, if there is one, was asked.

`resolve_fails_iff` says this in both directions, so it also says which error is reported where
several items are at fault.
-/

namespace RoleGrants

variable {σ : Type}

/-- What is asked on behalf of an item that fails. -/
def Item.lastQueries (directory : Option (Directory σ)) (i : Item) (e : ResolutionError) :
    List Selector :=
  if e.isStatic then [] else if directory.isSome then i.selector?.toList else []

/-- What is told of an item that fails. -/
def Item.lastEvents (i : Item) (e : ResolutionError) : List Event :=
  if e.isStatic then [] else i.warnings

theorem queriesOf_lastSteps (directory : Option (Directory σ)) (s : σ) (i : Item)
    (e : ResolutionError) :
    queriesOf (i.lastSteps directory s e) = i.lastQueries directory e := by
  unfold Item.lastSteps Item.lastQueries
  split
  · rfl
  · rw [queriesOf_append, queriesOf_map_event, queriesOf_asked, List.nil_append]

theorem eventsOf_lastSteps (directory : Option (Directory σ)) (s : σ) (i : Item)
    (e : ResolutionError) : eventsOf (i.lastSteps directory s e) = i.lastEvents e := by
  unfold Item.lastSteps Item.lastEvents
  split
  · rfl
  · rw [eventsOf_append, eventsOf_map_event, eventsOf_asked, List.append_nil]

/-- Sound items that get some answers pass, with the effects that belong to these answers. -/
theorem allPass_effects {d : Definition} {directory : Option (Directory σ)} {s s' : σ}
    (contract : Directory.ListsNames directory s) {items : List Item}
    (sound : ∀ i ∈ items, i.Sound) {answers : List (List String)}
    (h : Answered directory s (selectorsOf items) answers s') :
    ∃ p new, AllPass d directory s items p new s' ∧ eventsOf new = toldOf items answers ∧
      queriesOf new = selectorsOf items := by
  obtain ⟨new, pass⟩ := allPass_of_answered d sound h
  obtain ⟨-, answers', h', -, htold, hasked⟩ := pass.answered contract
  obtain ⟨rfl, -⟩ := h'.unique h
  exact ⟨_, new, pass, htold, hasked⟩

/-- A resolution fails with some error, queries and events exactly when the items of the definition
are some that are sound and answered, one that fails with this error, and others: the queries are
the selectors of the first and what is asked for the failing one, and so are the events. -/
theorem resolve_fails_iff (d : Definition) (directory : Option (Directory σ)) (s : σ)
    (contract : Directory.ListsNames directory s) (e : ResolutionError) (queries : List Selector)
    (events : List Event) :
    ((d.resolve directory s).result = .error e ∧ (d.resolve directory s).queries = queries ∧
      (d.resolve directory s).events = events) ↔
      ∃ earlier i later answers s₁, d.items = earlier ++ i :: later ∧
        (∀ j ∈ earlier, j.Sound) ∧ Answered directory s (selectorsOf earlier) answers s₁ ∧
        i.Fails d directory s₁ e ∧
        queries = selectorsOf earlier ++ i.lastQueries directory e ∧
        events = toldOf earlier answers ++ i.lastEvents e := by
  constructor
  · rintro ⟨hresult, rfl, rfl⟩
    rcases allPass_or_fails d directory d.items s with ⟨p, new, s', pass⟩ | ⟨earlier, i, later, p,
      new, s₁, e', items, before, failure⟩
    · rw [resolve_of_allPass pass] at hresult
      cases hresult
    · rw [resolve_of_fails items before failure] at hresult ⊢
      cases hresult
      obtain ⟨sound, answers, hanswers, -, htold, hasked⟩ := before.answered contract
      refine ⟨earlier, i, later, answers, s₁, items, sound, hanswers, failure, ?_, ?_⟩
      · rw [queries_run, queriesOf_append, hasked, queriesOf_lastSteps]
      · rw [events_run, eventsOf_append, htold, eventsOf_lastSteps]
  · rintro ⟨earlier, i, later, answers, s₁, items, sound, hanswers, failure, rfl, rfl⟩
    obtain ⟨p, new, before, htold, hasked⟩ := allPass_effects (d := d) contract sound hanswers
    rw [resolve_of_fails items before failure]
    refine ⟨rfl, ?_, ?_⟩
    · rw [queries_run, queriesOf_append, hasked, queriesOf_lastSteps]
    · rw [events_run, eventsOf_append, htold, eventsOf_lastSteps]

/-- The second lookup fails: the first binding has had all of its effects, and of the second one
only the warning is told. -/
theorem teamAccess_fails :
    Directory.ListsNames (some recited) [["blue", "red"]] ∧
      (teamAccess.resolve (some recited) [["blue", "red"]]).result =
        .error (.lookup (Selector.query ⟨none, some []⟩) (Failure.ofKind "TimeoutError").reasonText
          (some "TimeoutError")) ∧
      (teamAccess.resolve (some recited) [["blue", "red"]]).queries =
        [⟨some [("env", "test")], none⟩, ⟨none, some []⟩] ∧
      (teamAccess.resolve (some recited) [["blue", "red"]]).events =
        [.selectorResolved "dev" { kind := .clusterRole, name := "edit" }
            (Selector.query ⟨some [("env", "test")], none⟩) [.text "blue", .text "red"],
          .grantResolved "dev" { kind := .role, name := "deploy" } "stage",
          .bindingResolved "dev" 2 1 2, .namespaceIgnored "ops" "unused"] := by
  refine ⟨recited_listsNames _, ?_⟩
  refine (resolve_fails_iff teamAccess (some recited) _ (recited_listsNames _) _ _ _).2
    ⟨teamAccess.items.take 5, teamAccess.items[5], teamAccess.items.drop 6, [["blue", "red"]], [],
      rfl, ?_, .cons rfl rfl (.nil _), .lookup (by decide) rfl rfl rfl, rfl, rfl⟩
  intro j hj
  refine (items_sound_iff teamAccess).2 ⟨by decide, by decide, by decide⟩ j ?_
  exact List.mem_of_mem_take hj

end RoleGrants
