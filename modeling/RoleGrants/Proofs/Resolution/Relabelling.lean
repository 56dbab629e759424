import Mathlib.Data.List.Forall2
import RoleGrants.Proofs.Resolution.Objects

/-!
# Relabelling is local

A namespace may be given other labels, moved to another place in the table, added or taken out.
Whoever resolves a definition against the two tables sees the difference in that namespace and
nowhere else: `relabelling_local`.  The labels of the other namespaces have to be the same, in
whatever order they were set: a selector looks at the value of one label at a time.

The two resolutions are followed side by side.  A table always answers and never changes, so an item
passes with both tables or fails with both for the same reason, and what it gives differs at most in
one namespace (`Item.passes_both`).  From this the same holds of items in a row (`allPass_both`).
-/

namespace RoleGrants

/-! ## What lies outside a namespace -/

/-- The role bindings that do not lie in a namespace, in order. -/
def Produced.outside (n : String) (p : Produced) : List RoleBinding :=
  p.roleBindings.filter fun b => b.metadata.namespaceName ≠ some n

/-- Two sets of objects differ at most in their role bindings in a namespace. -/
structure Produced.AgreeOutside (n : String) (p q : Produced) : Prop where
  accounts : p.serviceAccounts = q.serviceAccounts
  cluster : p.clusterRoleBindings = q.clusterRoleBindings
  bindings : p.outside n = q.outside n

namespace Produced.AgreeOutside

variable {n : String}

theorem rfl' (p : Produced) : p.AgreeOutside n p := ⟨rfl, rfl, rfl⟩

theorem append {p q p' q' : Produced} (first : p.AgreeOutside n q) (more : p'.AgreeOutside n q') :
    (p.append p').AgreeOutside n (q.append q') := by
  have hbindings := first.bindings
  have hmore := more.bindings
  unfold Produced.outside at hbindings hmore
  refine ⟨?_, ?_, ?_⟩
  · simp only [Produced.append, first.accounts, more.accounts]
  · simp only [Produced.append, first.cluster, more.cluster]
  · simp only [Produced.outside, Produced.append, List.filter_append, hbindings, hmore]

end Produced.AgreeOutside

/-- Two outcomes are the same error, or objects that differ at most in a namespace. -/
def AgreeOutside (n : String) :
    Except ResolutionError Produced → Except ResolutionError Produced → Prop
  | .ok p, .ok q => p.AgreeOutside n q
  | .error e, .error e' => e = e'
  | _, _ => False

/-! ## Labels that are the same -/

/-- Two sets of labels have the same value under every key. -/
def Labels.Same (labels others : Labels) : Prop := ∀ key, labels.get? key = others.get? key

/-- Labels with distinct keys are the same in any order. -/
theorem Labels.same_of_perm {labels others : Labels} (h : labels.Perm others)
    (distinct : (labels.map Prod.fst).Nodup) : labels.Same others := by
  intro key
  induction h with
  | nil => rfl
  | cons l _ ih =>
      rw [List.map_cons, List.nodup_cons] at distinct
      by_cases hl : l.1 = key
      · simp [get?, hl]
      · simpa [get?, hl] using ih distinct.2
  | swap l m rest =>
      have hne : m.1 ≠ l.1 := by
        rw [List.map_cons, List.nodup_cons, List.map_cons] at distinct
        exact fun heq => distinct.1 (heq ▸ List.mem_cons_self)
      by_cases hl : l.1 = key
      · simp [get?, hl, hl ▸ hne]
      · simp [get?, List.find?_cons, hl]
  | trans first _ ih ih' => exact (ih distinct).trans (ih' ((first.map _).nodup_iff.1 distinct))

theorem Requirement.holds_of_same {labels others : Labels} (h : labels.Same others)
    (r : Requirement) : r.holds labels = r.holds others := by
  unfold holds
  rw [h]

theorem Selector.holds_of_same {labels others : Labels} (h : labels.Same others) (q : Selector) :
    q.holds labels = q.holds others := by
  unfold holds
  simp only [h _, Requirement.holds_of_same h]

/-- Two tables list the same namespaces in the same order, with the same labels. -/
def LabelTable.Same : LabelTable → LabelTable → Prop :=
  List.Forall₂ fun entry other => entry.1 = other.1 ∧ Labels.Same entry.2 other.2

/-- Whatever is asked, such tables give the same answer. -/
theorem LabelTable.Same.list_eq {t u : LabelTable} (h : t.Same u) (q : Selector) :
    t.list q = u.list q := by
  induction h with
  | nil => rfl
  | @cons entry other rest others hentry _ ih =>
      obtain ⟨hname, hlabels⟩ := hentry
      unfold list at ih ⊢
      rw [List.filter_cons, List.filter_cons, q.holds_of_same hlabels]
      by_cases holds : q.holds other.2
      · rw [if_pos holds, if_pos holds, List.map_cons, List.map_cons, hname, ih]
      · rw [if_neg holds, if_neg holds, ih]

/-! ## Tables that differ in a namespace -/

/-- Without a namespace, a table lists what it lists otherwise, without that namespace. -/
theorem LabelTable.list_delete (n : String) (t : LabelTable) (q : Selector) :
    (t.delete n).list q = (t.list q).filter (· ≠ n) := by
  unfold LabelTable.list LabelTable.delete
  rw [List.filter_map, List.filter_filter, List.filter_filter]
  refine congrArg (List.map Prod.fst) (List.filter_congr fun entry _ => ?_)
  by_cases h : entry.1 = n <;> simp [h]

/-- The role bindings of a grant outside a namespace come from the answer without it. -/
theorem filter_roleBindingIn (d : Definition) (b : Binding) (role : RoleRef) (n : String)
    (names : List String) :
    ((names.map fun m => d.roleBindingIn b role m (some m)).filter fun rb =>
      rb.metadata.namespaceName ≠ some n) =
      (names.filter (· ≠ n)).map fun m => d.roleBindingIn b role m (some m) := by
  rw [List.filter_map]
  refine congrArg (List.map _) (List.filter_congr fun m _ => ?_)
  simp [Definition.roleBindingIn, Mark.stamp]

/-! ## Two resolutions side by side -/

section

variable (d : Definition) {n : String} {t u : LabelTable}

/-- A grant with a selector passes with every table. -/
theorem passes_table {b : Binding} {g : NamespaceGrant} {q : Selector} (role : g.NamesOneRole)
    (set : g.activeSelector = some q) (t : LabelTable) :
    ∃ new, (Item.grant b g).Passes d (some LabelTable.directory) t
      ⟨[], (t.list q).map fun m => d.roleBindingIn b g.grantedRole m (some m), []⟩ new t := by
  have hread : (LabelTable.directory q t).1.reading q = .ok ((t.list q).map .text) :=
    reading_namesJson q (t.list q)
  have hnames : ∀ j ∈ (t.list q).map Json.text, j.isNamespace := by
    intro j hj
    obtain ⟨m, -, rfl⟩ := List.mem_map.1 hj
    rfl
  have hpass := Item.Passes.selected (d := d) (b := b) role set rfl hread hnames
  rw [List.map_map] at hpass
  exact ⟨_, hpass⟩

/-- An item passes with both tables, and gives objects that differ at most in the namespace, or it
fails with both for the same reason. -/
theorem Item.passes_both (same : (t.delete n).Same (u.delete n)) (i : Item) :
    (∃ p q new new', i.Passes d (some LabelTable.directory) t p new t ∧
      i.Passes d (some LabelTable.directory) u q new' u ∧ p.AgreeOutside n q) ∨
    ∃ e, i.Fails d (some LabelTable.directory) t e ∧ i.Fails d (some LabelTable.directory) u e := by
  rcases i.passes_or_fails d (some LabelTable.directory) t with ⟨p, new, s', pass⟩ | ⟨e, failure⟩
  · refine .inl ?_
    cases pass with
    | vacant => exact ⟨_, _, _, _, .vacant, .vacant, .rfl' _⟩
    | subjects hb => exact ⟨_, _, _, _, .subjects hb, .subjects hb, .rfl' _⟩
    | finished => exact ⟨_, _, _, _, .finished, .finished, .rfl' _⟩
    | literal role unset target =>
        exact ⟨_, _, _, _, .literal role unset target, .literal role unset target, .rfl' _⟩
    | @selected b g q _ _ role set =>
        obtain ⟨new, pass⟩ := passes_table d (b := b) role set t
        obtain ⟨new', pass'⟩ := passes_table d (b := b) role set u
        refine ⟨_, _, new, new', pass, pass', rfl, rfl, ?_⟩
        have hlist : (t.list q).filter (· ≠ n) = (u.list q).filter (· ≠ n) := by
          rw [← LabelTable.list_delete, ← LabelTable.list_delete, same.list_eq]
        unfold Produced.outside
        rw [filter_roleBindingIn, filter_roleBindingIn, hlist]
  · refine .inr ⟨e, failure, ?_⟩
    cases failure with
    | noSubjects hb => exact .noSubjects hb
    | twoRoles role clusterRole => exact .twoRoles role clusterRole
    | noRole role clusterRole => exact .noRole role clusterRole
    | noTarget role unset target => exact .noTarget role unset target
    | noDirectory _ _ absent => cases absent
    | lookup _ _ present reply =>
        -- A table never fails to answer.
        cases present
        rw [LabelTable.directory, reading_namesJson] at reply
        cases reply
    | badNamespace _ _ present reply misnamed =>
        -- Nor does it answer with anything but names.
        cases present
        rw [LabelTable.directory, reading_namesJson] at reply
        cases reply
        obtain ⟨j, hj, hmisnamed⟩ := misnamed
        obtain ⟨m, -, rfl⟩ := List.mem_map.1 hj
        cases hmisnamed

/-- Items in a row all pass with both tables, or with both the same item is the first one to fail,
for the same reason. -/
theorem allPass_both (same : (t.delete n).Same (u.delete n)) (items : List Item) :
    (∃ p q new new', AllPass d (some LabelTable.directory) t items p new t ∧
      AllPass d (some LabelTable.directory) u items q new' u ∧ p.AgreeOutside n q) ∨
    ∃ earlier i later p q new new' e, items = earlier ++ i :: later ∧
      AllPass d (some LabelTable.directory) t earlier p new t ∧
      AllPass d (some LabelTable.directory) u earlier q new' u ∧
      i.Fails d (some LabelTable.directory) t e ∧ i.Fails d (some LabelTable.directory) u e := by
  induction items with
  | nil => exact .inl ⟨_, _, _, _, .nil t, .nil u, .rfl' _⟩
  | cons i rest ih =>
      rcases i.passes_both d same with ⟨p, q, new, new', first, first', hagree⟩ | ⟨e, fails, fails'⟩
      · rcases ih with ⟨p₂, q₂, more, more', others, others', hagree₂⟩ | ⟨earlier, j, later, p₂, q₂,
          more, more', e, rfl, others, others', fails, fails'⟩
        · exact .inl ⟨_, _, _, _, .cons first others, .cons first' others', hagree.append hagree₂⟩
        · exact .inr ⟨i :: earlier, j, later, _, _, _, _, e, rfl, .cons first others,
            .cons first' others', fails, fails'⟩
      · exact .inr ⟨[], i, rest, _, _, _, _, e, rfl, .nil t, .nil u, fails, fails'⟩

end

/-- Two tables that are the same apart from a namespace lead to the same error, or to the same
service accounts, the same cluster-wide role bindings, and outside of the namespace the same role
bindings in the same order. -/
theorem relabelling_local (d : Definition) (n : String) (t u : LabelTable)
    (same : (t.delete n).Same (u.delete n)) :
    AgreeOutside n (d.resolve (some LabelTable.directory) t).result
      (d.resolve (some LabelTable.directory) u).result := by
  rcases allPass_both d same d.items with ⟨p, q, new, new', pass, pass', hagree⟩ | ⟨earlier, i,
    later, p, q, new, new', e, items, before, before', fails, fails'⟩
  · rw [resolve_of_allPass pass, resolve_of_allPass pass']
    exact hagree
  · rw [resolve_of_fails items before fails, resolve_of_fails items before' fails']
    rfl

/-- A table in which both namespaces are for tests. -/
def testTable : LabelTable :=
  [("blue", [("env", "test")]), ("red", [("env", "test"), ("tier", "web")])]

/-- The table with one namespace at the end and without its label, and with the labels of the other
the other way round. -/
def relabelledTable : LabelTable := [("red", [("tier", "web"), ("env", "test")]), ("blue", [])]

/-- This changes what is listed for the one namespace, and nothing else of the two bindings. -/
theorem teamAccess_relabelled :
    (testTable.delete "blue").Same (relabelledTable.delete "blue") ∧
      AgreeOutside "blue" (teamAccess.resolve (some LabelTable.directory) testTable).result
        (teamAccess.resolve (some LabelTable.directory) relabelledTable).result := by
  have labels : Labels.Same [("env", "test"), ("tier", "web")] [("tier", "web"), ("env", "test")] :=
    Labels.same_of_perm (.swap _ _ _) (by decide)
  have same : (testTable.delete "blue").Same (relabelledTable.delete "blue") :=
    .cons ⟨rfl, labels⟩ .nil
  exact ⟨same, relabelling_local teamAccess "blue" _ _ same⟩

end RoleGrants
