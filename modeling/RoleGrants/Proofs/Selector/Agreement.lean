import RoleGrants.Directory.Static
import RoleGrants.Proofs.Directory.Connection
import RoleGrants.Proofs.Schema.Accepted
import RoleGrants.Proofs.Selector.QueryLanguage

/-!
# Fixed and live directories agree

A fixed directory evaluates a selector itself; a live one writes it down and lets the cluster
evaluate what it reads.  The two come to the same: `table_lists_what_query_selects`.

Between them lie a text and two sorts.  What a selector writes are terms (`Selector.terms`), one for
each of its labels and requirements, in the order of the query; the cluster reads the same terms
back, and a conjunction does not depend on the order of its parts.
-/

namespace RoleGrants

open RoleGrants.Query RoleGrants.Schema

/-! ## The terms of a selector -/

/-- The term that a requirement is written as. -/
def Requirement.term (r : Requirement) : Term :=
  match r.operator with
  | .isPresent => .present r.key
  | .isAbsent => .absent r.key
  | .isIn => .among r.key (sortedBy (fun a b => a ≤ b) r.values)
  | .isNotIn => .notAmong r.key (sortedBy (fun a b => a ≤ b) r.values)

/-- The terms that a selector is written as, in the order of its query. -/
def Selector.terms (s : Selector) : List Term :=
  (sortedBy pairLe s.labels).map (fun l => .equals l.1 l.2)
    ++ (sortedBy Requirement.le s.requirements).map Requirement.term

theorem Requirement.text_term (r : Requirement) : r.term.text = r.query.toList := by
  unfold Requirement.term Requirement.query
  cases r.operator <;> simp [Term.text, valuesText]

theorem Selector.toList_queryPieces (s : Selector) :
    s.queryPieces.map String.toList = s.terms.map Term.text := by
  unfold Selector.queryPieces Selector.terms
  rw [List.map_append, List.map_append, List.map_map, List.map_map, List.map_map, List.map_map]
  refine congrArg₂ (· ++ ·) (List.map_congr_left fun l _ => ?_) (List.map_congr_left fun r _ => ?_)
  · simp [Term.text]
  · exact (r.text_term).symm

theorem Selector.toList_query (s : Selector) :
    s.query.toList = [','].intercalate (s.terms.map Term.text) := by
  rw [Selector.query, String.toList_intercalate, s.toList_queryPieces]
  rfl

/-! ## The terms ask what the selector asks -/

theorem Requirement.holds_term (r : Requirement) (labels : Labels) :
    r.term.holds labels = r.holds labels := by
  have hvalues : (sortedBy (fun a b => a ≤ b) r.values).contains = r.values.contains :=
    funext fun _ => (sortedBy_perm _ r.values).contains_eq
  unfold Requirement.term Requirement.holds
  cases r.operator <;> cases hfound : labels.get? r.key <;> simp [Term.holds, hfound, hvalues]

theorem Selector.all_terms (s : Selector) (labels : Labels) :
    s.terms.all (Term.holds labels) = s.holds labels := by
  have hrequirements : (fun r => (Requirement.term r).holds labels) = fun r => r.holds labels :=
    funext fun r => r.holds_term labels
  unfold Selector.terms Selector.holds
  rw [List.all_append, List.all_map, List.all_map]
  refine congrArg₂ (· && ·) ?_ ?_
  · exact (sortedBy_perm pairLe s.labels).all_eq
  · exact (congrArg (List.all _) hrequirements).trans
      (sortedBy_perm Requirement.le s.requirements).all_eq

/-! ## The terms can be read -/

/-- All keys and values of a selector are label text. -/
structure Selector.HasLabelText (s : Selector) : Prop where
  labels : ∀ l ∈ s.labels, IsLabelText l.1 ∧ IsLabelText l.2
  requirements : ∀ r ∈ s.requirements, IsLabelText r.key ∧ ∀ v ∈ r.values, IsLabelText v

/-- The requirements of a selector that was read were read. -/
theorem Selector.read_of_mem {v : Value} {s : Selector} (accepted : Selector.read v = .ok s)
    {r : Requirement} (hr : r ∈ s.requirements) : ∃ w, Requirement.read w = .ok r := by
  obtain ⟨entries, hentries⟩ := Fields.of_closed accepted
  obtain ⟨make, requirements, hmake, hrequirements, rfl⟩ := Fields.of_seq hentries
  obtain ⟨labels, -, rfl⟩ := Fields.of_map hmake
  cases requirements with
  | none => simp [Selector.requirements] at hr
  | some rs =>
      rcases Fields.of_withDefault hrequirements with habsent | ⟨_, hread⟩
      · cases habsent
      · obtain ⟨_, hlist⟩ := of_optional_eq_some hread
        exact of_mem_listOf hlist hr

/-- The requirements of a selector that was read list values exactly where they compare with
them. -/
theorem Selector.rule_of_read {v : Value} {s : Selector} (accepted : Selector.read v = .ok s)
    {r : Requirement} (hr : r ∈ s.requirements) : r.rule = none := by
  obtain ⟨_, hrequirement⟩ := Selector.read_of_mem accepted hr
  exact Check.obey_eq_ok hrequirement

theorem Requirement.legible_term {r : Requirement} (rule : r.rule = none)
    (hkey : IsLabelText r.key) (hvalues : ∀ v ∈ r.values, IsLabelText v) : r.term.Legible := by
  have hsorted : ∀ v ∈ sortedBy (fun a b => a ≤ b) r.values, IsLabelText v := fun v hv =>
    hvalues v ((sortedBy_perm _ r.values).mem_iff.1 hv)
  have hne : r.values ≠ [] → sortedBy (fun a b => a ≤ b) r.values ≠ [] := by
    intro h hnil
    have hperm := sortedBy_perm (fun a b => decide (a ≤ b)) r.values
    rw [hnil] at hperm
    exact h hperm.nil_eq.symm
  unfold Requirement.rule at rule
  unfold Requirement.term
  cases hop : r.operator with
  | isPresent | isAbsent => exact hkey
  | isIn | isNotIn =>
      simp only [hop] at rule
      refine ⟨hkey, hne ?_, hsorted⟩
      rintro hnil
      simp [hnil] at rule

theorem Selector.legible_terms {v : Value} {s : Selector} (accepted : Selector.read v = .ok s)
    (legible : s.HasLabelText) : ∀ t ∈ s.terms, t.Legible := by
  intro t ht
  rcases List.mem_append.1 ht with ht | ht
  · obtain ⟨l, hl, rfl⟩ := List.mem_map.1 ht
    exact legible.labels l ((sortedBy_perm pairLe s.labels).mem_iff.1 hl)
  · obtain ⟨r, hr, rfl⟩ := List.mem_map.1 ht
    have hr' : r ∈ s.requirements := (sortedBy_perm Requirement.le s.requirements).mem_iff.1 hr
    obtain ⟨hkey, hvalues⟩ := legible.requirements r hr'
    exact Requirement.legible_term (Selector.rule_of_read accepted hr') hkey hvalues

/-- The cluster reads the query of a selector as the terms it was written as. -/
theorem Selector.read_query {v : Value} {s : Selector} (accepted : Selector.read v = .ok s)
    (legible : s.HasLabelText) : Query.read s.query = some s.terms :=
  read_joined (Selector.legible_terms accepted legible) s.toList_query

/-! ## The two directories -/

/-- Once it is connected, a live directory sends the query of the selector. -/
theorem ClusterDirectory.calls_directory {c c' : ClusterDirectory} {records : List LogRecord}
    (connected : c.connect = (.ok records, c')) (s : Selector) :
    (ClusterDirectory.directory s c).2.2.calls = .listNamespaces s.query :: c'.calls := by
  obtain ⟨-, hafter⟩ := directory_of_connect_ok connected s
  rw [hafter]
  rfl

theorem LabelTable.select?_query {v : Value} {s : Selector} (accepted : Selector.read v = .ok s)
    (legible : s.HasLabelText) (t : LabelTable) : Query.select? s.query t = some (t.list s) := by
  unfold Query.select? LabelTable.list
  rw [Selector.read_query accepted legible]
  simp only [Option.map_some, Selector.all_terms]

/-- For a selector that was read from a document and whose keys and values are label text, the terms
that the cluster reads from its query accept just the labels that match it; and so a table lists
just the namespaces, in its order, that are selected by the query which a live directory sends. -/
theorem table_lists_what_query_selects {v : Value} {s : Selector}
    (accepted : Selector.read v = .ok s) (legible : s.HasLabelText) :
    (∃ terms, Query.read s.query = some terms ∧
      ∀ labels : Labels, terms.all (Term.holds labels) = s.holds labels) ∧
    ∀ (c c' : ClusterDirectory) (records : List LogRecord), c.connect = (.ok records, c') →
      ∀ t : LabelTable, ∃ query names,
        (ClusterDirectory.directory s c).2.2.calls = .listNamespaces query :: c'.calls ∧
        Query.select? query t = some names ∧
        (LabelTable.directory s t).1 = .names (LabelTable.namesJson names) := by
  refine ⟨⟨s.terms, Selector.read_query accepted legible, s.all_terms⟩, ?_⟩
  intro c c' records connected t
  exact ⟨s.query, t.list s, ClusterDirectory.calls_directory connected s,
    LabelTable.select?_query accepted legible t, rfl⟩

/-- A selector with both parts: a label, and values and an absence to look for, neither in the order
of the query. -/
def tierSelector : Selector where
  matchLabels := some [("env", "prod")]
  matchExpressions := some [⟨"tier", .isNotIn, ["web", "db"]⟩, ⟨"legacy", .isAbsent, []⟩]

/-- The document of `tierSelector`. -/
def tierDocument : Value :=
  .map [
    (.text "matchLabels", .map [(.text "env", .text "prod")]),
    (.text "matchExpressions", .list [
      .map [(.text "key", .text "tier"), (.text "operator", .text "NotIn"),
        (.text "values", .list [.text "web", .text "db"])],
      .map [(.text "key", .text "legacy"), (.text "operator", .text "DoesNotExist")]])]

/-- With a connection that is there already, and one of two namespaces selected. -/
theorem tierSelector_agrees :
    Selector.read tierDocument = .ok tierSelector ∧ tierSelector.HasLabelText ∧
      (ClusterDirectory.ofClient .default ⟨[], [], []⟩).connect =
        (.ok [], .ofClient .default ⟨[], [], []⟩) ∧
      ∃ query names,
        (ClusterDirectory.directory tierSelector (.ofClient .default ⟨[], [], []⟩)).2.2.calls =
          [.listNamespaces query] ∧
        Query.select? query [("lab", []), ("shop", [("env", "prod")])] = some names ∧
        (LabelTable.directory tierSelector [("lab", []), ("shop", [("env", "prod")])]).1 =
          .names (LabelTable.namesJson names) := by
  have accepted : Selector.read tierDocument = .ok tierSelector := rfl
  have legible : tierSelector.HasLabelText := ⟨by decide, by decide⟩
  have connected : (ClusterDirectory.ofClient .default ⟨[], [], []⟩).connect =
      (.ok [], .ofClient .default ⟨[], [], []⟩) := rfl
  exact ⟨accepted, legible, connected,
    (table_lists_what_query_selects accepted legible).2 _ _ _ connected _⟩

end RoleGrants
