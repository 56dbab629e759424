import RoleGrants.Resolution.Basic

/-!
# What a part of a resolution does

A part of a resolution reads and changes the state of the directory, and adds steps to a trail that
it never reads.  `Runs` records what it does from one state, whatever the trail holds so far: the
outcome, the steps it adds, in the order in which they happen, and the state it leaves.  The events
it gathers for the result need no place of their own there, for they are those among the steps.

An error ends a part of a resolution but undoes nothing, so the rules for a sequence differ only in
whether the second part is reached: `Runs.bind` and `Runs.bind_error`.  With a handler it is the
other way round: `Runs.tryCatch` and `Runs.tryCatch_error`.
-/

namespace RoleGrants

variable {σ α β : Type}

/-! ## Events among steps -/

/-- The events among some steps. -/
def eventsOf (steps : List Step) : List Event :=
  steps.filterMap fun
    | .event e => some e
    | _ => none

@[simp] theorem eventsOf_nil : eventsOf [] = [] := rfl

@[simp] theorem eventsOf_event (e : Event) (rest : List Step) :
    eventsOf (.event e :: rest) = e :: eventsOf rest := rfl

@[simp] theorem eventsOf_append (xs ys : List Step) :
    eventsOf (xs ++ ys) = eventsOf xs ++ eventsOf ys := List.filterMap_append

/-! ## Runs -/

/-- From the directory state `s`, the part `x` ends with `r`, adds the steps `new`, gathers the
events among them, and leaves the state `s'`. -/
def Runs (x : Resolving σ α) (s : σ) (r : Except ResolutionError α) (new : List Step) (s' : σ) :
    Prop :=
  ∀ (before : List Step) (gathered : List Event), x.run.run ⟨s, before, gathered⟩ =
    (r, ⟨s', new.reverse ++ before, (eventsOf new).reverse ++ gathered⟩)

namespace Runs

/-! ## Rules -/

theorem pure (a : α) (s : σ) : Runs (Pure.pure a) s (.ok a) [] s :=
  fun _ _ => rfl

theorem throw (e : ResolutionError) (s : σ) :
    Runs (α := α) (MonadExcept.throw e) s (.error e) [] s :=
  fun _ _ => rfl

/-- A step that is no event is noted, and that is all. -/
theorem note {step : Step} (h : eventsOf [step] = []) (s : σ) :
    Runs (RoleGrants.note step) s (.ok ()) [step] s := by
  intro before gathered
  rw [h]
  rfl

theorem emit (e : Event) (s : σ) : Runs (RoleGrants.emit e) s (.ok ()) [.event e] s :=
  fun _ _ => rfl

/-- What goes on as another part after some steps does these and those of the other. -/
theorem after {x y : Resolving σ α} {s s₁ s₂ : σ} {r : Except ResolutionError α}
    {new more : List Step} (hy : Runs y s₁ r more s₂)
    (hx : ∀ (before : List Step) (gathered : List Event), x.run.run ⟨s, before, gathered⟩ =
      y.run.run ⟨s₁, new.reverse ++ before, (eventsOf new).reverse ++ gathered⟩) :
    Runs x s r (new ++ more) s₂ := by
  intro before gathered
  rw [hx, hy, eventsOf_append, List.reverse_append, List.append_assoc, List.reverse_append,
    List.append_assoc]

/-- A part that ends well hands its value and the state on. -/
theorem bind {x : Resolving σ α} {f : α → Resolving σ β} {s s₁ s₂ : σ} {a : α}
    {r : Except ResolutionError β} {new more : List Step} (hx : Runs x s (.ok a) new s₁)
    (hf : Runs (f a) s₁ r more s₂) : Runs (x >>= f) s r (new ++ more) s₂ := by
  refine hf.after fun before gathered => ?_
  simp only [ExceptT.run_bind, StateT.run_bind, hx before gathered]
  rfl

/-- A part that fails is the end; what follows is not reached. -/
theorem bind_error {x : Resolving σ α} {f : α → Resolving σ β} {s s₁ : σ} {e : ResolutionError}
    {new : List Step} (hx : Runs x s (.error e) new s₁) : Runs (x >>= f) s (.error e) new s₁ := by
  intro before gathered
  simp only [ExceptT.run_bind, StateT.run_bind, hx before gathered]
  rfl

/-- A part that ends well needs no handler. -/
theorem tryCatch {x : Resolving σ α} {s s₁ : σ} {a : α} {new : List Step}
    (hx : Runs x s (.ok a) new s₁) (handler : ResolutionError → Resolving σ α) :
    Runs (MonadExcept.tryCatch x handler) s (.ok a) new s₁ := by
  intro before gathered
  simp only [ExceptT.run_tryCatch, StateT.run_bind, hx before gathered]
  rfl

/-- Where a part fails the handler goes on from there. -/
theorem tryCatch_error {x : Resolving σ α} {handler : ResolutionError → Resolving σ α}
    {s s₁ s₂ : σ} {e : ResolutionError} {r : Except ResolutionError α} {new more : List Step}
    (hx : Runs x s (.error e) new s₁) (hhandler : Runs (handler e) s₁ r more s₂) :
    Runs (MonadExcept.tryCatch x handler) s r (new ++ more) s₂ := by
  refine hhandler.after fun before gathered => ?_
  simp only [ExceptT.run_tryCatch, StateT.run_bind, hx before gathered]
  rfl

theorem map {x : Resolving σ α} (f : α → β) {s s₁ : σ} {r : Except ResolutionError α}
    {new : List Step} (hx : Runs x s r new s₁) : Runs (f <$> x) s (r.map f) new s₁ := by
  intro before gathered
  simp only [ExceptT.run_map, StateT.run_map, hx before gathered]
  rfl

/-- Steps that are no events are noted in order. -/
theorem notes {γ : Type} {f : γ → Step} (h : ∀ x, eventsOf [f x] = []) (xs : List γ) (s : σ) :
    Runs (xs.forM fun x => RoleGrants.note (f x)) s (.ok ()) (xs.map f) s := by
  induction xs with
  | nil => exact .pure () s
  | cons x rest ih => exact .bind (.note (h x) s) ih

end Runs

/-- A resolution is what resolving all bindings does from the first state. -/
theorem Runs.resolve {d : Definition} {directory : Option (Directory σ)} {s s' : σ}
    {r : Except ResolutionError Produced} {new : List Step}
    (h : Runs (d.resolveAll directory) s r new s') : d.resolve directory s = ⟨r, new, s'⟩ := by
  unfold Definition.resolve
  rw [h [] []]
  simp

/-- The events of a result are those that were told on the way. -/
theorem Runs.resolved {d : Definition} {directory : Option (Directory σ)} {s s' : σ}
    {r : Except ResolutionError Produced} {new : List Step}
    (h : Runs (d.resolveAll directory) s r new s') :
    d.resolved directory s = r.map fun p => ⟨d.name, p, eventsOf new⟩ := by
  unfold Definition.resolved
  rw [h [] []]
  simp

end RoleGrants
