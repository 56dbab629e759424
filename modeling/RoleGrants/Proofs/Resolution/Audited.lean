import RoleGrants.Proofs.Trace.Traced

/-!
# One audit event for every resolution

A resolution is to end in a result or in one of the two errors that callers are told of, and to
leave one audit event that says which.  It does, whatever a directory does, with one exception:
members of an answer become namespaces of objects after the lookup is over, and one that is neither
a text nor null is only refused there, by an error of the object's schema.  Nothing turns that into
a failed lookup, so it leaves no audit event.

`audited_or_misnamed` says that this is the only way, and when exactly it is taken.
-/

namespace RoleGrants

open RoleGrants.Schema

variable {σ : Type}

/-- A resolution ends as callers are told, and logs one audit event, which agrees: success as
information, and an error of a binding or a lookup as an error. -/
def Definition.Run.Audited (r : Definition.Run σ) : Prop :=
  ∃ e, r.audits = [e] ∧
    match r.result with
    | .ok _ => e.outcome = .success ∧ e.level = .info
    | .error (.binding _ _ _) => e.outcome = .validationError ∧ e.level = .error
    | .error (.lookup _ _ _) => e.outcome = .lookupError ∧ e.level = .error
    | .error (.badNamespace _) => False

/-- From the directory state `s` some grant is reached, with everything before it passing, whose
selector is answered with a member that no namespace can be. -/
def Definition.Misnamed (d : Definition) (directory : Option (Directory σ)) (s : σ) : Prop :=
  ∃ earlier b g later p new s₁ q ask members, d.items = earlier ++ .grant b g :: later ∧
    AllPass d directory s earlier p new s₁ ∧ g.NamesOneRole ∧ g.activeSelector = some q ∧
    directory = some ask ∧ (ask q s₁).1.reading q = .ok members ∧
    ∃ j ∈ members, j.isNamespace = false

/-- Unless it is refused by the schema of an object, a resolution is audited. -/
theorem traced_audited (d : Definition) (directory : Option (Directory σ)) (s : σ)
    (c : SpanContext)
    (h : ∀ faults, (d.resolve directory s).result ≠ .error (.badNamespace faults)) :
    (d.traced c directory s).Audited := by
  unfold Definition.Run.Audited
  rw [traced_audits, traced_result]
  cases hresult : (d.resolve directory s).result with
  | ok p => exact ⟨_, rfl, rfl, rfl⟩
  | error e =>
      cases e with
      | binding | lookup => exact ⟨_, rfl, rfl, rfl⟩
      | badNamespace faults => exact absurd hresult (h faults)

/-- An item fails by an error that callers are told of, or by a member that is no namespace. -/
theorem Item.Fails.told_or_misnamed {d : Definition} {directory : Option (Directory σ)} {s : σ}
    {i : Item} {e : ResolutionError} (h : i.Fails d directory s e) :
    (∀ faults, e ≠ .badNamespace faults) ∨
      e = .badNamespace [⟨["namespace"], .notText⟩] ∧ ∃ b g q ask members, i = .grant b g ∧
        g.NamesOneRole ∧ g.activeSelector = some q ∧ directory = some ask ∧
        (ask q s).1.reading q = .ok members ∧ ∃ j ∈ members, j.isNamespace = false := by
  cases h with
  | noSubjects | twoRoles | noRole | noTarget | noDirectory =>
      exact .inl fun faults he => by cases he
  | lookup role set present reply =>
      obtain ⟨selector, reason, cause, rfl⟩ := exists_eq_lookup_of_reading reply
      exact .inl fun faults he => by cases he
  | badNamespace role set present reply misnamed =>
      exact .inr ⟨rfl, _, _, _, _, _, rfl, role, set, present, reply, misnamed⟩

/-- A member that no namespace can be ends the resolution with the error of an object's schema. -/
theorem resolve_of_misnamed {d : Definition} {directory : Option (Directory σ)} {s : σ}
    (h : d.Misnamed directory s) :
    (d.resolve directory s).result = .error (.badNamespace [⟨["namespace"], .notText⟩]) := by
  obtain ⟨earlier, b, g, later, p, new, s₁, q, ask, members, items, before, role, set, present,
    reply, misnamed⟩ := h
  rw [resolve_of_fails items before (.badNamespace role set present reply misnamed)]

/-- Either a resolution ends as callers are told and logs one audit event, which belongs to its end,
or a member of an answer that is used cannot be a namespace, and no audit event is logged. -/
theorem audited_or_misnamed (d : Definition) (directory : Option (Directory σ)) (s : σ)
    (c : SpanContext) :
    ((d.traced c directory s).Audited ∧ ¬ d.Misnamed directory s) ∨
      (d.Misnamed directory s ∧
        (d.traced c directory s).result = .error (.badNamespace [⟨["namespace"], .notText⟩]) ∧
        (d.traced c directory s).audits = []) := by
  by_cases h : d.Misnamed directory s
  · have hresult := resolve_of_misnamed h
    refine .inr ⟨h, ?_, ?_⟩
    · rw [traced_result, hresult]
    · rw [traced_audits, hresult]
      rfl
  · refine .inl ⟨traced_audited d directory s c fun faults hresult => ?_, h⟩
    rcases allPass_or_fails d directory d.items s with ⟨p, new, s', pass⟩ | ⟨earlier, i, later, p,
      new, s₁, e, items, before, failure⟩
    · rw [resolve_of_allPass pass] at hresult
      cases hresult
    · rw [resolve_of_fails items before failure] at hresult
      cases hresult
      rcases failure.told_or_misnamed with told | ⟨-, b, g, q, ask, members, rfl, role, set,
        present, reply, misnamed⟩
      · exact told faults rfl
      · exact h ⟨earlier, b, g, later, p, new, s₁, q, ask, members, items, before, role, set,
          present, reply, misnamed⟩

/-- A grant with a selector, and nothing else. -/
def selectedAccess : Definition where
  apiVersion := Definition.defaultApiVersion
  metadata := ⟨"team", none⟩
  bindings := [
    { name := "dev"
      subjects := [⟨.user, "jo", none, none⟩]
      clusterGrants := []
      namespaceGrants := [⟨none, some "view", none, some ⟨some [], none⟩⟩] }]

/-- A directory that answers with a number for a name. -/
def numbered : Directory Unit := fun _ s => (.names (.array [.int 1]), [], s)

/-- Not every resolution is audited: a number in an answer is reported by the schema alone. -/
theorem selectedAccess_not_audited :
    ¬ (selectedAccess.traced .invalid (some numbered) ()).Audited := by
  have hnone : (selectedAccess.traced .invalid (some numbered) ()).audits = [] := rfl
  rintro ⟨e, haudit, -⟩
  rw [hnone] at haudit
  cases haudit

end RoleGrants
