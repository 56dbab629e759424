import RoleGrants.Proofs.Resolution.Answers
import RoleGrants.Trace.Resolution

/-!
# What is told of a resolution

A traced resolution begins a span, does what the resolution itself does, tells what came of it, and
ends the span.  `traced_eq` says so for every directory.

The two parts of its trail have nothing in common: the resolution neither touches a span nor logs an
audit event (`resolve_isWork`), and what is told is neither an event nor a query (`told_isTold`).  So
its events, queries and log are those of the resolution itself, and its audit events and its span
are made of what is told alone.
-/

namespace RoleGrants

variable {σ α : Type}

/-! ## Work and what is told of it -/

/-- The audit event that a step logs. -/
def Step.audit? : Step → Option AuditEvent
  | .audit e => some e
  | _ => none

/-- What a step does to a span. -/
def Step.mark? : Step → Option SpanMark
  | .span m => some m
  | _ => none

/-- The audit events among some steps. -/
def auditsOf (steps : List Step) : List AuditEvent := steps.filterMap Step.audit?

/-- What is done to spans among some steps. -/
def marksOf (steps : List Step) : List SpanMark := steps.filterMap Step.mark?

/-- Whether a step tells something of a resolution as a whole. -/
def Step.isTold : Step → Bool
  | .span _ | .audit _ => true
  | .event _ | .query _ | .log _ => false

/-- What is told of the result of a resolution. -/
def Definition.told (d : Definition) (c : SpanContext) :
    Except ResolutionError Produced → List Step
  | .ok p => (successMarks p).map .span ++ [.audit (d.successEvent c p)]
  | .error e =>
    match e with
    | .binding _ binding _ =>
      (failureMarks e).map .span ++ [.audit (d.failureEvent c .validationError (some binding) e)]
    | .lookup _ _ _ =>
      (failureMarks e).map .span ++ [.audit (d.failureEvent c .lookupError none e)]
    | .badNamespace _ => []

theorem told_isTold {d : Definition} {c : SpanContext} {r : Except ResolutionError Produced}
    {step : Step} (h : step ∈ d.told c r) : step.isTold = true := by
  have hmarked : ∀ (marks : List SpanMark) (e : AuditEvent),
      step ∈ marks.map .span ++ [.audit e] → step.isTold = true := by
    intro marks e hmem
    rcases List.mem_append.1 hmem with hmark | haudit
    · obtain ⟨m, -, rfl⟩ := List.mem_map.1 hmark
      rfl
    · rw [List.mem_singleton.1 haudit]
      rfl
  cases r with
  | ok p => exact hmarked _ _ h
  | error e =>
      cases e with
      | binding | lookup => exact hmarked _ _ h
      | badNamespace => cases h

/-- Steps that are work, and tell nothing of the resolution as a whole. -/
def IsWork (steps : List Step) : Prop := ∀ step ∈ steps, step.isTold = false

theorem isWork_append {xs ys : List Step} : IsWork (xs ++ ys) ↔ IsWork xs ∧ IsWork ys :=
  List.forall_mem_append

theorem isWork_map_event (es : List Event) : IsWork (es.map .event) := by
  intro step h
  obtain ⟨e, -, rfl⟩ := List.mem_map.1 h
  rfl

section

variable {d : Definition} {directory : Option (Directory σ)} {s s' : σ} {p : Produced}
  {new : List Step}

theorem isWork_asked (directory : Option (Directory σ)) (q : Option Selector) (s : σ) :
    IsWork (Directory.asked directory q s).1 := by
  cases directory <;> cases q <;> simp [Directory.asked, IsWork, Step.isTold]

theorem Item.Passes.isWork {i : Item} (h : i.Passes d directory s p new s') : IsWork new := by
  cases h with
  | subjects => exact List.forall_mem_nil _
  | vacant | literal | finished => exact isWork_map_event [_]
  | selected =>
      rw [isWork_append, isWork_append]
      exact ⟨⟨isWork_map_event _, isWork_asked _ _ _⟩, isWork_map_event [_]⟩

theorem Item.isWork_lastSteps (i : Item) (e : ResolutionError) :
    IsWork (i.lastSteps directory s e) := by
  unfold lastSteps
  split
  · exact List.forall_mem_nil _
  · rw [isWork_append]
    exact ⟨isWork_map_event _, isWork_asked _ _ _⟩

theorem AllPass.isWork {items : List Item} (h : AllPass d directory s items p new s') :
    IsWork new := by
  induction h with
  | nil => exact List.forall_mem_nil _
  | cons first _ ih => exact isWork_append.2 ⟨first.isWork, ih⟩

/-- A resolution tells nothing of itself as a whole. -/
theorem resolve_isWork (d : Definition) (directory : Option (Directory σ)) (s : σ) :
    IsWork (d.resolve directory s).steps := by
  rcases allPass_or_fails d directory d.items s with ⟨p, new, s', pass⟩ | ⟨earlier, i, later, p,
    new, s₁, e, items, before, failure⟩
  · rw [resolve_of_allPass pass]
    exact pass.isWork
  · rw [resolve_of_fails items before failure]
    exact isWork_append.2 ⟨before.isWork, i.isWork_lastSteps e⟩

end

/-! ## Rules -/

namespace Runs

variable {s s' : σ} {new : List Step}

/-- A span is begun and ended around the steps of what is done inside. -/
theorem inSpan {body : Resolving σ α} {r : Except ResolutionError α}
    (attributes : List (String × Json)) (h : Runs body s r new s') :
    Runs (RoleGrants.inSpan attributes body) s r
      (.span (.begun attributes) :: (new ++ [.span .ended])) s' := by
  have hended : Runs (markSpan .ended) s' (.ok ()) [.span .ended] s' := .note rfl s'
  refine (Runs.note rfl s).bind ?_
  cases r with
  | ok a => exact (h.tryCatch _).bind (hended.bind (.pure a s'))
  | error e => exact .bind_error (h.tryCatch_error (hended.bind (.throw e s')))

theorem tellSuccess (d : Definition) (c : SpanContext) (p : Produced) (s : σ) :
    Runs (d.tellSuccess c p) s (.ok ()) (d.told c (.ok p)) s :=
  (Runs.notes (fun _ => rfl) (successMarks p) s).bind (.note rfl s)

theorem tellFailure (d : Definition) (c : SpanContext) (e : ResolutionError) (s : σ) :
    Runs (d.tellFailure c e) s (.ok ()) (d.told c (.error e)) s := by
  cases e with
  | binding | lookup => exact (Runs.notes (fun _ => rfl) (failureMarks _) s).bind (.note rfl s)
  | badNamespace faults => exact .pure () s

/-- What is told of the result of a resolution comes behind its steps, all within the span. -/
theorem resolveInSpan {d : Definition} {directory : Option (Directory σ)}
    {r : Except ResolutionError Produced} (c : SpanContext)
    (h : Runs (d.resolveAll directory) s r new s') :
    Runs (d.resolveInSpan c directory) s r
      (.span (.begun d.spanAttributes) :: (new ++ d.told c r ++ [.span .ended])) s' := by
  refine .inSpan d.spanAttributes ?_
  cases r with
  | ok p =>
      rw [← List.append_nil (d.told c (.ok p))]
      exact (h.tryCatch _).bind ((tellSuccess d c p s').bind (.pure p s'))
  | error e =>
      rw [← List.append_nil (d.told c (.error e))]
      exact .bind_error (h.tryCatch_error ((tellFailure d c e s').bind (.throw e s')))

end Runs

/-! ## Traced resolutions -/

section

variable (d : Definition) (c : SpanContext) (directory : Option (Directory σ)) (s : σ)

/-- A traced resolution does what the resolution does, and tells what came of it. -/
theorem traced_eq :
    d.traced c directory s =
      ⟨(d.resolve directory s).result,
        .span (.begun d.spanAttributes) :: ((d.resolve directory s).steps
          ++ d.told c (d.resolve directory s).result ++ [.span .ended]),
        (d.resolve directory s).directory⟩ := by
  unfold Definition.traced
  rw [(runs_resolveAll d directory s).resolveInSpan c [] []]
  simp

/-- Where nothing is seen of what is told, the resolution alone is seen. -/
theorem filterMap_traced {β : Type} {f : Step → Option β}
    (h : ∀ step, step.isTold = true → f step = none) :
    (d.traced c directory s).steps.filterMap f = (d.resolve directory s).steps.filterMap f := by
  have htold : (d.told c (d.resolve directory s).result).filterMap f = [] :=
    List.filterMap_eq_nil_iff.2 fun step hmem => h step (told_isTold hmem)
  rw [traced_eq, List.filterMap_cons_none (h _ rfl), List.filterMap_append, List.filterMap_append,
    htold, List.filterMap_cons_none (h _ rfl)]
  simp

/-- Where nothing is seen of the work, the span and what is told are seen. -/
theorem filterMap_traced_of_isTold {β : Type} {f : Step → Option β}
    (h : ∀ step, step.isTold = false → f step = none) :
    (d.traced c directory s).steps.filterMap f = (.span (.begun d.spanAttributes) ::
      (d.told c (d.resolve directory s).result ++ [.span .ended])).filterMap f := by
  have hwork : (d.resolve directory s).steps.filterMap f = [] :=
    List.filterMap_eq_nil_iff.2 fun step hmem => h step (resolve_isWork d directory s step hmem)
  rw [traced_eq, List.append_assoc, ← List.singleton_append, List.filterMap_append,
    List.filterMap_append, hwork, List.nil_append, ← List.filterMap_append,
    List.singleton_append]

@[simp] theorem traced_result :
    (d.traced c directory s).result = (d.resolve directory s).result := by
  rw [traced_eq]

@[simp] theorem traced_directory :
    (d.traced c directory s).directory = (d.resolve directory s).directory := by
  rw [traced_eq]

@[simp] theorem traced_events :
    (d.traced c directory s).events = (d.resolve directory s).events :=
  filterMap_traced d c directory s fun step h => by
    cases step with
    | span | audit => rfl
    | event | query | log => cases h

@[simp] theorem traced_queries :
    (d.traced c directory s).queries = (d.resolve directory s).queries :=
  filterMap_traced d c directory s fun step h => by
    cases step with
    | span | audit => rfl
    | event | query | log => cases h

@[simp] theorem traced_log (definition : String) :
    (d.traced c directory s).log definition = (d.resolve directory s).log definition :=
  filterMap_traced d c directory s fun step h => by
    cases step with
    | span | audit => rfl
    | event | query | log => cases h

/-- The audit events of a traced resolution are those of what is told. -/
theorem traced_audits :
    (d.traced c directory s).audits = auditsOf (d.told c (d.resolve directory s).result) := by
  have hview := filterMap_traced_of_isTold d c directory s (f := Step.audit?)
    fun step h => by
      cases step with
      | event | query | log => rfl
      | span | audit => cases h
  refine hview.trans ?_
  rw [List.filterMap_cons_none rfl, List.filterMap_append]
  exact List.append_nil _

/-- The spans of a traced resolution are made of what is told, between a beginning and an end. -/
theorem traced_spans :
    (d.traced c directory s).spans = SpanRecord.ofMarks (.begun d.spanAttributes ::
      (marksOf (d.told c (d.resolve directory s).result) ++ [.ended])) := by
  have hview := filterMap_traced_of_isTold d c directory s (f := Step.mark?)
    fun step h => by
      cases step with
      | event | query | log => rfl
      | span | audit => cases h
  refine congrArg SpanRecord.ofMarks (hview.trans ?_)
  exact congrArg (SpanMark.begun d.spanAttributes :: ·) List.filterMap_append

end

end RoleGrants
