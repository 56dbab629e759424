import Mathlib.Algebra.Ring.Nat
import RoleGrants.Manifest.Output
import RoleGrants.Proofs.Resolution.Objects
import RoleGrants.Proofs.Trace.Traced

/-!
# The reports of a resolution

What a resolution came to is reported in several places, each of which counts for itself: the
result and its summary, the manifests, the span, the audit event, and the events on the way.
`Definition.Reported` says that all of them agree on a resolution that succeeded, and
`Definition.FailureReported` that they agree on one that failed.

The events are told long before the objects are counted.  That they add up to the objects is shown
item by item (`Item.Passes.reported`) and summed up over the items of a definition.
-/

namespace RoleGrants

open RoleGrants.Number

/-! ## Counts -/

/-- How many objects there are of each kind. -/
def Produced.counts (p : Produced) : List Nat :=
  [p.serviceAccounts.length, p.roleBindings.length, p.clusterRoleBindings.length]

/-- How many objects of each kind an audit event counts. -/
def AuditEvent.counts (e : AuditEvent) : List Nat :=
  [e.serviceAccounts, e.roleBindings, e.clusterRoleBindings]

/-- The number that a line ends with. -/
def numberAtEnd (line : List Char) : Nat :=
  Nat.ofDigitChars 10 (line.reverse.takeWhile Char.isDigit).reverse 0

/-- The numbers that the last lines of a text end with. -/
def numbersAtEnd (lines : Nat) (text : String) : List Nat :=
  ((text.toList.splitOn '\n').reverse.take lines).reverse.map numberAtEnd

theorem numberAtEnd_decimal (label : List Char) (n : Nat) :
    numberAtEnd (label ++ ' ' :: decimal n) = n := by
  have hdigits : ∀ c ∈ (decimal n).reverse, c.isDigit := fun c hc =>
    Nat.isDigit_of_mem_toDigits (by decide) (by decide) (List.mem_reverse.1 hc)
  have htake : (label ++ ' ' :: decimal n).reverse.takeWhile Char.isDigit =
      (decimal n).reverse := by
    rw [List.reverse_append, List.reverse_cons, List.append_assoc,
      List.takeWhile_append_of_pos hdigits, List.singleton_append,
      List.takeWhile_cons_of_neg (by decide), List.append_nil]
  rw [numberAtEnd, htake, List.reverse_reverse]
  exact Nat.ofDigitChars_ten_toDigits

/-- A label and a number make one line. -/
theorem splitOn_label {label : List Char} (h : '\n' ∉ label) (n : Nat) :
    (label ++ ' ' :: decimal n).splitOn '\n' = [label ++ ' ' :: decimal n] := by
  refine List.splitOn_eq_singleton ?_
  intro hmem
  rcases List.mem_append.1 hmem with hlabel | hnumber
  · exact h hlabel
  · rcases List.mem_cons.1 hnumber with hblank | hdigit
    · cases hblank
    · have := Nat.isDigit_of_mem_toDigits (by decide) (by decide) hdigit
      cases this

/-- Whatever a definition is called, the last lines of its summary end with the counts. -/
theorem numbersAtEnd_summary (name : String) (p : Produced) :
    numbersAtEnd 3 (p.summary name) = p.counts := by
  have htext : (p.summary name).toList =
      ("RBACDefinition " ++ name ++ ":").toList
        ++ '\n' :: (("  ServiceAccounts:".toList ++ ' ' :: decimal p.serviceAccounts.length)
        ++ '\n' :: (("  RoleBindings:".toList ++ ' ' :: decimal p.roleBindings.length)
        ++ '\n' :: ("  ClusterRoleBindings:".toList
          ++ ' ' :: decimal p.clusterRoleBindings.length))) := by
    simp [Produced.summary]
  rw [numbersAtEnd, htext, List.splitOn_append_cons_self, List.splitOn_append_cons_self,
    List.splitOn_append_cons_self, splitOn_label (by decide), splitOn_label (by decide),
    splitOn_label (by decide), List.reverse_append]
  show [numberAtEnd _, numberAtEnd _, numberAtEnd _] = p.counts
  rw [numberAtEnd_decimal, numberAtEnd_decimal, numberAtEnd_decimal]
  rfl

/-! ## Events and objects -/

/-- Whether an event says that a binding was resolved. -/
def Event.isBindingResolved : Event → Bool
  | .bindingResolved _ _ _ _ => true
  | _ => false

/-- Whether an event says that a grant was made in the namespace it names. -/
def Event.isGrantResolved : Event → Bool
  | .grantResolved _ _ _ => true
  | _ => false

/-- The namespaces of an event that says that a grant was made in those of a selector. -/
def Event.selected? : Event → Option (List Json)
  | .selectorResolved _ _ _ namespaces => some namespaces
  | _ => none

/-- The binding and the role of an event that says that a grant was made, and whether this was in
the namespaces of a selector. -/
def Event.granted? : Event → Option (String × RoleRef × Bool)
  | .grantResolved binding role _ => some (binding, role, false)
  | .selectorResolved binding role _ _ => some (binding, role, true)
  | _ => none

/-- How many role bindings were made according to some events. -/
def roleBindingsTold (events : List Event) : Nat :=
  events.countP Event.isGrantResolved + ((events.filterMap Event.selected?).map List.length).sum

theorem roleBindingsTold_append (xs ys : List Event) :
    roleBindingsTold (xs ++ ys) = roleBindingsTold xs + roleBindingsTold ys := by
  simp only [roleBindingsTold, List.countP_append, List.filterMap_append, List.map_append,
    List.sum_append]
  omega

/-- What is told at the end of a binding. -/
def Binding.ending (b : Binding) : Event :=
  .bindingResolved b.name b.subjects.length b.clusterGrants.length b.namespaceGrants.length

/-- What is told of a grant, apart from its namespaces. -/
def Binding.granting (bg : Binding × NamespaceGrant) : String × RoleRef × Bool :=
  (bg.1.name, bg.2.grantedRole, bg.2.usesSelector)

/-- The binding that an item ends. -/
def Item.finished? : Item → Option Binding
  | .finished b => some b
  | _ => none

theorem binding_items_filterMap_finished? (b : Binding) :
    b.items.filterMap Item.finished? = [b] := by
  have hgrants : b.namespaceGrants.filterMap (Item.finished? ∘ .grant b) = [] :=
    List.filterMap_eq_nil_iff.2 fun _ _ => rfl
  rw [Binding.items, List.filterMap_cons_none rfl, List.filterMap_append, List.filterMap_map,
    hgrants]
  rfl

theorem items_filterMap_finished? (d : Definition) :
    d.items.filterMap Item.finished? = d.bindings := by
  unfold Definition.items
  by_cases h : d.bindings = []
  · simp [h, Item.finished?]
  · rw [if_neg h, List.filterMap_flatMap]
    simp only [binding_items_filterMap_finished?, List.flatMap_singleton']

section

variable {σ : Type} {d : Definition} {directory : Option (Directory σ)} {s s' : σ}
  {p : Produced} {new : List Step}

/-- A warning is about neither an end nor an object. -/
theorem warnings_unreported (i : Item) :
    i.warnings.filter Event.isBindingResolved = [] ∧ i.warnings.filterMap Event.granted? = [] ∧
      roleBindingsTold i.warnings = 0 := by
  have hcases : i.warnings = [] ∨ ∃ b n, i.warnings = [.namespaceIgnored b n] := by
    cases i with
    | vacant | subjects | finished => exact .inl rfl
    | grant b g =>
        rw [Item.warnings]
        split
        · cases g.namespaceName with
          | none => exact .inl rfl
          | some n => exact .inr ⟨b.name, n, rfl⟩
        · exact .inl rfl
  rcases hcases with hnone | ⟨b, n, hone⟩
  · rw [hnone]
    exact ⟨rfl, rfl, rfl⟩
  · rw [hone]
    exact ⟨rfl, rfl, rfl⟩

/-- An item that passes tells its end or the grant that it is, and its role bindings. -/
theorem Item.Passes.reported {i : Item} (h : i.Passes d directory s p new s') :
    (eventsOf new).filter Event.isBindingResolved = i.finished?.toList.map Binding.ending ∧
      (eventsOf new).filterMap Event.granted? = i.grant?.toList.map Binding.granting ∧
      p.roleBindings.length = roleBindingsTold (eventsOf new) := by
  cases h with
  | vacant => exact ⟨rfl, rfl, rfl⟩
  | subjects => exact ⟨rfl, rfl, rfl⟩
  | finished => exact ⟨rfl, rfl, rfl⟩
  | @literal b g n role unset target =>
      have hgranting : Binding.granting (b, g) = (b.name, g.grantedRole, false) := by
        rw [Binding.granting, g.usesSelector_of_unset unset]
      refine ⟨rfl, ?_, rfl⟩
      rw [Item.grant?, Option.toList_some, List.map_singleton, hgranting]
      rfl
  | @selected b g q ask members role set present reply namespaces =>
      have hgranting : Binding.granting (b, g) = (b.name, g.grantedRole, true) := by
        rw [Binding.granting, g.usesSelector_of_set set]
      have hevents : eventsOf ((Item.grant b g).warnings.map .event
          ++ (Directory.asked directory (some q) s).1
          ++ [.event (.selectorResolved b.name g.grantedRole q.query members)]) =
          (Item.grant b g).warnings
            ++ [.selectorResolved b.name g.grantedRole q.query members] := by
        simp
      obtain ⟨hends, hgrants, htold⟩ := warnings_unreported (.grant b g)
      rw [hevents, List.filter_append, List.filterMap_append, roleBindingsTold_append, hends,
        hgrants, htold, Item.grant?, Option.toList_some, List.map_singleton, hgranting]
      refine ⟨rfl, rfl, ?_⟩
      simp [roleBindingsTold, Event.isGrantResolved, Event.selected?]

/-- Items that pass tell their ends and the grants that they are in order, and their role
bindings. -/
theorem AllPass.reported {items : List Item} (h : AllPass d directory s items p new s') :
    (eventsOf new).filter Event.isBindingResolved =
        (items.filterMap Item.finished?).map Binding.ending ∧
      (eventsOf new).filterMap Event.granted? =
        (items.filterMap Item.grant?).map Binding.granting ∧
      p.roleBindings.length = roleBindingsTold (eventsOf new) := by
  induction h with
  | nil => exact ⟨rfl, rfl, rfl⟩
  | @cons s s₁ s₂ i rest p q new more first _ ih =>
      obtain ⟨hend, hgrant, hmade⟩ := first.reported
      obtain ⟨hends, hgrants, hmade'⟩ := ih
      refine ⟨?_, ?_, ?_⟩
      · rw [eventsOf_append, List.filter_append, hend, hends, ← List.map_append]
        cases hi : i.finished? <;> simp [hi]
      · rw [eventsOf_append, List.filterMap_append, hgrant, hgrants, ← List.map_append]
        cases hi : i.grant? <;> simp [hi]
      · rw [eventsOf_append, roleBindingsTold_append, ← hmade, ← hmade']
        exact List.length_append

end

/-! ## Reports of a success -/

/-- All reports of a resolution that succeeded agree: its result, the span and the audit event, and
the events that were told on the way. -/
structure Definition.Reported (d : Definition) (r : Definition.Result) (span : SpanRecord)
    (audit : AuditEvent) (told : List Event) : Prop where
  auditCounts : audit.counts = r.objects.counts
  spanCounts : ["rbac.service_accounts_count", "rbac.role_bindings_count",
      "rbac.cluster_role_bindings_count"].map (Json.find? · span.attributes) =
    r.objects.counts.map fun n => some (.nat n)
  dumpCounts : ["service_accounts", "role_bindings", "cluster_role_bindings"].map
      (Json.get? · audit.dump) =
    r.objects.counts.map fun n => some (.nat n)
  manifests : r.objects.manifests.map (·.2.length) = r.objects.counts
  summary : numbersAtEnd 3 (r.objects.summary r.definition) = r.objects.counts
  total : audit.dump.get? "total_resources" = some (.nat r.objects.total)
  auditBindings : audit.bindings = d.bindings.length
  spanBindings : Json.find? "rbac.bindings_count" span.attributes = some (.nat d.bindings.length)
  spanEnded : span.ended = true
  events : r.events = told
  /-- The end of each binding is told once, in order. -/
  ends : r.events.filter Event.isBindingResolved = d.bindings.map Binding.ending
  /-- Each grant is told once, in order. -/
  grants : r.events.filterMap Event.granted? = d.grants.map Binding.granting
  roleBindings : r.objects.roleBindings.length = r.events.countP Event.isGrantResolved
    + ((r.events.filterMap Event.selected?).map List.length).sum

/-- A resolution that succeeds is reported alike everywhere. -/
theorem reported_of_resolved {σ : Type} {d : Definition} {directory : Option (Directory σ)} {s : σ}
    (c : SpanContext) {r : Definition.Result} (h : d.resolved directory s = .ok r) :
    ∃ span audit, (d.traced c directory s).spans = [span] ∧
      (d.traced c directory s).audits = [audit] ∧
      d.Reported r span audit (d.traced c directory s).events := by
  rw [resolved_eq] at h
  cases hresult : (d.resolve directory s).result with
  | error e =>
      rw [hresult] at h
      cases h
  | ok p =>
      rw [hresult] at h
      cases h
      obtain ⟨new, s', pass⟩ := allPass_of_resolve_eq_ok hresult
      obtain ⟨hends, hgrants, hmade⟩ := pass.reported
      rw [items_filterMap_finished?] at hends
      rw [items_filterMap_grant?] at hgrants
      rw [traced_spans, traced_audits, traced_events, resolve_of_allPass pass, events_run]
      exact ⟨_, _, rfl, rfl,
        { auditCounts := rfl
          spanCounts := rfl
          dumpCounts := rfl
          manifests := by simp [Produced.manifests, Produced.counts]
          summary := numbersAtEnd_summary _ _
          total := rfl
          auditBindings := rfl
          spanBindings := rfl
          spanEnded := rfl
          events := rfl
          ends := hends
          grants := hgrants
          roleBindings := hmade }⟩

/-! ## Reports of a failure -/

/-- All reports of a resolution that failed with an error give the same text, and count nothing but
the bindings. -/
structure Definition.FailureReported (d : Definition) (e : ResolutionError) (span : SpanRecord)
    (audit : AuditEvent) (shown : String) : Prop where
  sanitized : shown = Redaction.sanitize e.message
  auditCounts : audit.counts = [0, 0, 0]
  total : audit.dump.get? "total_resources" = some (.nat 0)
  auditBindings : audit.bindings = d.bindings.length
  auditError : audit.error = some shown
  dumpError : audit.dump.get? "error" = some (.text shown)
  spanStatus : span.status = "ERROR"
  spanFailed : span.failed = some shown
  spanMessage : Json.find? "exception.message" span.attributes = some (.text shown)
  spanEnded : span.ended = true

namespace Redaction

theorem redactLinks_cons_ne_nil (c : Char) (s : List Char) : redactLinks (c :: s) ≠ [] := by
  rw [redactLinks, redactLinksFrom]
  split
  · simp
  · exact List.cons_ne_nil _ _

theorem replacement_ne_nil (found : List Char) : replacement found ≠ [] := by
  unfold replacement
  split <;> simp

theorem redactValues_cons_ne_nil (c : Char) (s : List Char) : redactValues (c :: s) ≠ [] := by
  rw [redactValues, redactValuesFrom]
  split
  · exact List.append_ne_nil_of_left_ne_nil (replacement_ne_nil _) _
  · exact List.cons_ne_nil _ _

/-- Something is left of a text that is sanitized. -/
theorem sanitize_ne_empty {message : String} (h : message ≠ "") : sanitize message ≠ "" := by
  have hchars : message.toList ≠ [] := by simpa using h
  obtain ⟨c, s, hcs⟩ := List.exists_cons_of_ne_nil hchars
  obtain ⟨c', s', hcs'⟩ := List.exists_cons_of_ne_nil (redactLinks_cons_ne_nil c s)
  obtain ⟨c'', s'', hcs''⟩ := List.exists_cons_of_ne_nil (redactValues_cons_ne_nil c' s')
  rw [sanitize, sanitizeTo, hcs, hcs', hcs'']
  simp [cut, maxLength]

end Redaction

/-- An error of a binding or a lookup says something. -/
theorem message_ne_empty {e : ResolutionError} (h : ∀ faults, e ≠ .badNamespace faults) :
    e.message ≠ "" := by
  have happend : ∀ {a : String} (b : String), a ≠ "" → a ++ b ≠ "" :=
    fun b ha hab => ha (String.append_eq_empty_iff.1 hab).1
  cases e with
  | binding d b problem => exact happend _ (happend _ (happend _ (by decide)))
  | lookup selector reason cause => exact happend _ (happend _ (by decide))
  | badNamespace faults => exact absurd rfl (h faults)

/-- The error of an audit event is in its dump, if it says something. -/
theorem dump_error {audit : AuditEvent} {shown : String} (h : audit.error = some shown)
    (hne : shown ≠ "") : audit.dump.get? "error" = some (.text shown) := by
  have hentry : AuditEvent.entry? "error" audit.error = [("error", .text shown)] := by
    rw [h, AuditEvent.entry?, if_neg (by simpa using hne)]
  unfold AuditEvent.dump
  rw [hentry]
  cases hb : audit.binding with
  | none => simp [AuditEvent.entry?, Json.find?]
  | some b => by_cases hempty : b = "" <;> simp [AuditEvent.entry?, Json.find?, hempty]

/-- A resolution that fails with an error of a binding or a lookup is reported alike everywhere. -/
theorem reported_of_failed {σ : Type} {d : Definition} {directory : Option (Directory σ)} {s : σ}
    (c : SpanContext) {e : ResolutionError} (h : d.resolved directory s = .error e)
    (htold : ∀ faults, e ≠ .badNamespace faults) :
    ∃ span audit, (d.traced c directory s).spans = [span] ∧
      (d.traced c directory s).audits = [audit] ∧
      d.FailureReported e span audit (shownError e) := by
  rw [resolved_eq] at h
  rw [traced_spans, traced_audits]
  cases hresult : (d.resolve directory s).result with
  | ok p =>
      rw [hresult] at h
      cases h
  | error e' =>
      rw [hresult] at h
      cases h
      have hne : shownError e ≠ "" := Redaction.sanitize_ne_empty (message_ne_empty htold)
      cases e with
      | binding definition binding problem =>
          exact ⟨_, _, rfl, rfl, rfl, rfl, rfl, rfl, rfl, dump_error rfl hne, rfl, rfl, rfl, rfl⟩
      | lookup selector reason cause =>
          exact ⟨_, _, rfl, rfl, rfl, rfl, rfl, rfl, rfl, dump_error rfl hne, rfl, rfl, rfl, rfl⟩
      | badNamespace faults => exact absurd rfl (htold faults)

/-! ## All reports -/

/-- All reports of a resolution agree, with every directory: on the objects and the events where it
succeeds, and on the text of the error where it fails with one of a binding or a lookup. -/
theorem reports_agree {σ : Type} (d : Definition) (directory : Option (Directory σ)) (s : σ)
    (c : SpanContext) :
    (∀ r, d.resolved directory s = .ok r →
      ∃ span audit, (d.traced c directory s).spans = [span] ∧
        (d.traced c directory s).audits = [audit] ∧
        d.Reported r span audit (d.traced c directory s).events) ∧
    ∀ e, d.resolved directory s = .error e → (∀ faults, e ≠ .badNamespace faults) →
      ∃ span audit shown, (d.traced c directory s).spans = [span] ∧
        (d.traced c directory s).audits = [audit] ∧ d.FailureReported e span audit shown := by
  constructor
  · intro r h
    exact reported_of_resolved c h
  · intro e h htold
    obtain ⟨span, audit, hspan, haudit, hreported⟩ := reported_of_failed c h htold
    exact ⟨span, audit, _, hspan, haudit, hreported⟩

/-- Two of three grants have a selector, and four role bindings come of all; without a directory the
first selector is in the way. -/
theorem teamAccess_reported :
    (∃ r span audit, teamAccess.resolved (some recited) [["blue", "red"], ["blue"]] = .ok r ∧
      (teamAccess.traced .invalid (some recited) [["blue", "red"], ["blue"]]).spans = [span] ∧
      (teamAccess.traced .invalid (some recited) [["blue", "red"], ["blue"]]).audits = [audit] ∧
      audit.counts = [1, 4, 1] ∧
      teamAccess.Reported r span audit
        (teamAccess.traced .invalid (some recited) [["blue", "red"], ["blue"]]).events) ∧
    ∃ span audit shown, shown =
        "Failed to list namespaces matching 'env=test': no namespace directory configured" ∧
      (teamAccess.traced .invalid none ()).spans = [span] ∧
      (teamAccess.traced .invalid none ()).audits = [audit] ∧
      teamAccess.FailureReported
        (.lookup "env=test" "no namespace directory configured" none) span audit shown := by
  constructor
  · have hok : ∃ r, teamAccess.resolved (some recited) [["blue", "red"], ["blue"]] = .ok r ∧
        r.objects.counts = [1, 4, 1] := ⟨_, rfl, rfl⟩
    obtain ⟨r, hr, hcounts⟩ := hok
    obtain ⟨span, audit, hspan, haudit, hreported⟩ :=
      (reports_agree teamAccess (some recited) _ .invalid).1 r hr
    exact ⟨r, span, audit, hr, hspan, haudit, hreported.auditCounts.trans hcounts, hreported⟩
  · have herror : teamAccess.resolved none () =
        .error (.lookup "env=test" "no namespace directory configured" none) := rfl
    obtain ⟨span, audit, shown, hspan, haudit, hreported⟩ :=
      (reports_agree teamAccess none () .invalid).2 _ herror fun _ h => by cases h
    refine ⟨span, audit, shown, ?_, hspan, haudit, hreported⟩
    rw [hreported.sanitized]
    rfl

end RoleGrants
