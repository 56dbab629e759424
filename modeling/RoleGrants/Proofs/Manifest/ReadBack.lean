import RoleGrants.Manifest.Output
import RoleGrants.Proofs.Resolution.Outcomes
import RoleGrants.Proofs.Yaml.ReadBack

/-!
# Rendered manifests are read back

Whatever a directory answers, the objects of a resolution have what their manifests need to be laid
out: labels, and subjects in every binding (`Produced.Complete`).  So their manifests are documents
of the kind that the writer and the reader agree on, and the text of a resolution is read as its
manifests, in the order in which they are applied.

The names in a manifest are any text, and they are read back as they were written with one
exception: a next line in a text between single quotes is taken for a line break.
`resolved_manifests_read_back` says when that happens, and what is read then.
-/

namespace RoleGrants

open RoleGrants.Yaml

variable {σ : Type} {d : Definition} {directory : Option (Directory σ)} {s s' : σ}

/-! ## What every produced object has -/

/-- Every object carries the labels of managed objects, and every binding has subjects. -/
structure Produced.Complete (p : Produced) : Prop where
  accounts : ∀ a ∈ p.serviceAccounts, a.metadata.labels = managedLabels
  roleBindings : ∀ b ∈ p.roleBindings, b.metadata.labels = managedLabels ∧ b.subjects ≠ []
  clusterRoleBindings : ∀ b ∈ p.clusterRoleBindings,
    b.metadata.labels = managedLabels ∧ b.subjects ≠ []

/-- The binding that an item belongs to has subjects. -/
def Item.HasSubjects : Item → Prop
  | .subjects b | .grant b _ => b.subjects ≠ []
  | .vacant | .finished _ => True

theorem Produced.Complete.none : Produced.none.Complete :=
  ⟨List.forall_mem_nil _, List.forall_mem_nil _, List.forall_mem_nil _⟩

theorem Produced.Complete.append {p q : Produced} (hp : p.Complete) (hq : q.Complete) :
    (p.append q).Complete :=
  ⟨List.forall_mem_append.mpr ⟨hp.accounts, hq.accounts⟩,
    List.forall_mem_append.mpr ⟨hp.roleBindings, hq.roleBindings⟩,
    List.forall_mem_append.mpr ⟨hp.clusterRoleBindings, hq.clusterRoleBindings⟩⟩

/-- What an item gives is complete. -/
theorem Item.Passes.complete {i : Item} {p : Produced} {new : List Step}
    (h : i.Passes d directory s p new s') (subjects : i.HasSubjects) : p.Complete := by
  cases h with
  | vacant | finished => exact .none
  | @subjects b hb =>
      refine ⟨?_, List.forall_mem_nil _, ?_⟩
      · intro a ha
        obtain ⟨u, -, hu⟩ := List.mem_filterMap.mp ha
        unfold Definition.accountOf at hu
        split at hu
        · cases hu
          rfl
        · cases hu
      · intro c hc
        obtain ⟨g, -, rfl⟩ := List.mem_map.mp hc
        exact ⟨rfl, hb⟩
  | literal =>
      refine ⟨List.forall_mem_nil _, ?_, List.forall_mem_nil _⟩
      intro rb hrb
      obtain rfl := List.mem_singleton.mp hrb
      exact ⟨rfl, subjects⟩
  | selected =>
      refine ⟨List.forall_mem_nil _, ?_, List.forall_mem_nil _⟩
      intro rb hrb
      obtain ⟨j, -, rfl⟩ := List.mem_map.mp hrb
      exact ⟨rfl, subjects⟩

theorem AllPass.complete {items : List Item} {p : Produced} {new : List Step}
    (h : AllPass d directory s items p new s') (subjects : ∀ i ∈ items, i.HasSubjects) :
    p.Complete := by
  induction h with
  | nil => exact .none
  | cons first _ ih =>
      rw [List.forall_mem_cons] at subjects
      exact (first.complete subjects.1).append (ih subjects.2)

theorem AllPass.passes {items : List Item} {p : Produced} {new : List Step}
    (h : AllPass d directory s items p new s') {i : Item} (hi : i ∈ items) :
    ∃ (s₁ s₂ : σ) (q : Produced) (more : List Step), i.Passes d directory s₁ q more s₂ := by
  induction h with
  | nil => cases hi
  | cons first _ ih =>
      rcases List.mem_cons.mp hi with rfl | hi
      · exact ⟨_, _, _, _, first⟩
      · exact ih hi

/-- If the items of a definition pass then all of its bindings have subjects. -/
theorem AllPass.hasSubjects {p : Produced} {new : List Step}
    (h : AllPass d directory s d.items p new s') : ∀ i ∈ d.items, i.HasSubjects := by
  -- A grant passes whatever the subjects are; the item in front of the grants asks for them.
  have hbindings := (forall_mem_items d (fun i => ∀ b, i = .subjects b → b.subjects ≠ [])
    (fun b hb => nomatch hb)).mp fun i hi b hb => by
      obtain ⟨s₁, s₂, q, more, pass⟩ := h.passes hi
      subst hb
      cases pass with
      | subjects hb => exact hb
  refine (forall_mem_items d Item.HasSubjects trivial).mpr fun b hb => ?_
  have hsubjects := (hbindings b hb).1 b rfl
  exact ⟨hsubjects, fun _ _ => hsubjects, trivial⟩

/-- The objects of a successful resolution are complete. -/
theorem complete_of_resolve_eq_ok {p : Produced} (h : (d.resolve directory s).result = .ok p) :
    p.Complete := by
  obtain ⟨new, s', pass⟩ := allPass_of_resolve_eq_ok h
  exact pass.complete pass.hasSubjects

/-! ## Manifests are documents -/

/-- The keys of manifests. -/
def manifestKeys : List String :=
  ["apiVersion", "kind", "metadata", "name", "namespace", "labels", "app.kubernetes.io/managed-by",
    "ownerReferences", "uid", "controller", "blockOwnerDeletion", "roleRef", "apiGroup", "subjects"]

theorem keyText_of_mem_manifestKeys {key : String} (h : key ∈ manifestKeys) :
    KeyText key.toList := by
  have hall : manifestKeys.all (fun key => isKeyText key.toList) = true := by decide
  exact keyText_of_isKeyText (List.all_eq_true.mp hall key h)

/-- An object whose keys are distinct ones of manifests and whose values are blocks. -/
theorem isObject_of_entries {n : Nat} {entries : List (String × Json)} (hne : entries ≠ [])
    (hnodup : (entries.map Prod.fst).Nodup)
    (h : ∀ e ∈ entries, e.1 ∈ manifestKeys ∧ Block n (.value e.2)) :
    IsObject n (.object entries) := by
  refine .intro hne hnodup ?_
  clear hne hnodup
  induction entries with
  | nil => exact .noEntries
  | cons e rest ih =>
      obtain ⟨⟨hkey, hvalue⟩, hrest⟩ := List.forall_mem_cons.mp h
      exact .entry (keyText_of_mem_manifestKeys hkey) hvalue (ih hrest)

section

variable {n : Nat}

theorem Subject.isObject (u : Subject) (hn : n + 2 < Pen.width) : IsObject n u.manifest := by
  have htext : ∀ s, Block n (.value (.text s)) := fun s => .text s hn
  unfold Subject.manifest
  cases u.apiGroup <;> cases u.namespaceName <;>
    exact isObject_of_entries (by simp) (by simp) (by simp [manifestKeys, htext])

theorem OwnerReference.isObject (o : OwnerReference) (hn : n + 2 < Pen.width) :
    IsObject n o.manifest := by
  have htext : ∀ s, Block n (.value (.text s)) := fun s => .text s hn
  have hbool : ∀ b, Block n (.value (.bool b)) := fun b => .bool b hn
  exact isObject_of_entries (by simp) (by simp) (by simp [manifestKeys, htext, hbool])

theorem RoleRef.isObject (r : RoleRef) (hn : n + 2 < Pen.width) : IsObject n r.manifest := by
  have htext : ∀ s, Block n (.value (.text s)) := fun s => .text s hn
  exact isObject_of_entries (by simp) (by simp) (by simp [manifestKeys, htext])

theorem managedLabels_isObject (hn : n + 2 < Pen.width) :
    IsObject n (labelsDump managedLabels) := by
  have htext : ∀ s, Block n (.value (.text s)) := fun s => .text s hn
  exact isObject_of_entries (by decide) (by decide)
    (by simp [manifestKeys, htext, managedLabels])

theorem ObjectMeta.isObject {m : ObjectMeta} (hlabels : m.labels = managedLabels)
    (hn : n + 4 < Pen.width) : IsObject n m.manifest := by
  have htext : ∀ s, Block n (.value (.text s)) := fun s => .text s (by omega)
  have hmanaged : Block n (.value (labelsDump managedLabels)) :=
    (managedLabels_isObject (by omega)).block
  unfold ObjectMeta.manifest
  rw [hlabels]
  -- Without owners there is no entry for them, since an empty array could not be a block.
  by_cases howners : m.owners = []
  · rw [if_pos (by simpa using howners)]
    cases m.namespaceName <;>
      exact isObject_of_entries (by simp) (by simp) (by simp [manifestKeys, htext, hmanaged])
  · have hreferences : Block n (.value (.array (m.owners.map OwnerReference.manifest))) :=
      IsObject.block_array (by simpa using howners)
        (List.forall_mem_map.mpr fun o _ => o.isObject (by omega))
    rw [if_neg (by simpa using howners)]
    cases m.namespaceName <;>
      exact isObject_of_entries (by simp) (by simp)
        (by simp [manifestKeys, htext, hmanaged, hreferences])

end

theorem ServiceAccount.isDocument {a : ServiceAccount}
    (hlabels : a.metadata.labels = managedLabels) : IsDocument a.manifest := by
  have htext : ∀ s, Block 0 (.value (.text s)) := fun s => .text s (by decide)
  have hmeta : Block 0 (.value a.metadata.manifest) :=
    (ObjectMeta.isObject hlabels (by decide)).block
  exact isObject_of_entries (by simp) (by simp) (by simp [manifestKeys, htext, hmeta])

/-- A binding of either kind. -/
theorem bindingManifest_isDocument (kind : String) {m : ObjectMeta} (role : RoleRef)
    {subjects : List Subject} (hlabels : m.labels = managedLabels) (hsubjects : subjects ≠ []) :
    IsDocument (bindingManifest kind m role subjects) := by
  have htext : ∀ s, Block 0 (.value (.text s)) := fun s => .text s (by decide)
  have hmeta : Block 0 (.value m.manifest) := (ObjectMeta.isObject hlabels (by decide)).block
  have hrole : Block 0 (.value role.manifest) := (role.isObject (by decide)).block
  have hlist : Block 0 (.value (.array (subjects.map Subject.manifest))) :=
    IsObject.block_array (by simpa using hsubjects)
      (List.forall_mem_map.mpr fun u _ => u.isObject (by decide))
  exact isObject_of_entries (by simp) (by simp)
    (by simp [manifestKeys, htext, hmeta, hrole, hlist])

namespace Produced

/-- The manifests of what was produced, in the order in which they are applied. -/
def documents (p : Produced) : List Json :=
  p.serviceAccounts.map ServiceAccount.manifest ++
    (p.roleBindings.map RoleBinding.manifest ++
      p.clusterRoleBindings.map ClusterRoleBinding.manifest)

theorem render_eq (p : Produced) : p.render = Yaml.render p.documents := by
  rw [render, documents, manifests]
  simp

/-- The manifests of complete objects are documents. -/
theorem Complete.isDocument {p : Produced} (h : p.Complete) :
    ∀ doc ∈ p.documents, IsDocument doc := by
  refine List.forall_mem_append.mpr ⟨?_, List.forall_mem_append.mpr ⟨?_, ?_⟩⟩
  · exact List.forall_mem_map.mpr fun a ha => ServiceAccount.isDocument (h.accounts a ha)
  · refine List.forall_mem_map.mpr fun b hb => ?_
    obtain ⟨hlabels, hsubjects⟩ := h.roleBindings b hb
    exact bindingManifest_isDocument _ _ hlabels hsubjects
  · refine List.forall_mem_map.mpr fun b hb => ?_
    obtain ⟨hlabels, hsubjects⟩ := h.clusterRoleBindings b hb
    exact bindingManifest_isDocument _ _ hlabels hsubjects

end Produced

/-! ## Reading manifests back -/

/-- The text of what a resolution produced is read as its manifests in their order, each of their
texts replaced by what it reads as.  These are the manifests themselves exactly when no text in them
stands between single quotes with a next line. -/
theorem resolved_manifests_read_back (d : Definition) (directory : Option (Directory σ)) (s : σ)
    {p : Produced} (h : (d.resolve directory s).result = .ok p) :
    loadAll p.render.toList = .ok (p.documents.map fun doc => (reread doc).toValue) ∧
      (loadAll p.render.toList = .ok (p.documents.map Json.toValue) ↔
        ∀ doc ∈ p.documents, ∀ t ∈ textsOf doc, Style.ofText t.toList = .single →
          '\x85' ∉ t.toList) := by
  have hdocuments := (complete_of_resolve_eq_ok h).isDocument
  rw [p.render_eq]
  exact ⟨loadAll_render hdocuments, loadAll_render_eq_iff hdocuments⟩

/-- A user whose name has a next line, and a group whose name would be a truth value. -/
def nextLineAccess : Definition where
  apiVersion := Definition.defaultApiVersion
  metadata := ⟨"team", none⟩
  bindings := [
    { name := "dev"
      subjects := [⟨.user, "a\x85b", none, none⟩, ⟨.group, "yes", none, some "x: y"⟩]
      clusterGrants := [⟨"view"⟩]
      namespaceGrants := [] }]

/-- The cluster-wide grant that it makes to a user, and to the group. -/
def viewBinding (user : String) : ClusterRoleBinding where
  metadata := ⟨"team-dev-view", none, managedLabels, []⟩
  roleRef := { kind := .clusterRole, name := "view" }
  subjects := [⟨.user, user, none, none⟩, ⟨.group, "yes", none, some "x: y"⟩]

/-- The next line is read as a space, and the other texts as themselves. -/
theorem nextLineAccess_reads :
    (nextLineAccess.resolve none ()).result = .ok ⟨[], [], [viewBinding "a\x85b"]⟩ ∧
      loadAll (Produced.render ⟨[], [], [viewBinding "a\x85b"]⟩).toList =
        .ok [(viewBinding "a b").manifest.toValue] := by
  have hresult : (nextLineAccess.resolve none ()).result =
      .ok ⟨[], [], [viewBinding "a\x85b"]⟩ := rfl
  have hreread : reread (viewBinding "a\x85b").manifest = (viewBinding "a b").manifest := rfl
  rw [← hreread]
  exact ⟨hresult, (resolved_manifests_read_back nextLineAccess none () hresult).1⟩

/-- Not every manifest is read back: this one comes back with another user. -/
theorem nextLineAccess_renamed :
    (nextLineAccess.resolve none ()).result = .ok ⟨[], [], [viewBinding "a\x85b"]⟩ ∧
      loadAll (Produced.render ⟨[], [], [viewBinding "a\x85b"]⟩).toList ≠
        .ok [(viewBinding "a\x85b").manifest.toValue] := by
  have hresult : (nextLineAccess.resolve none ()).result =
      .ok ⟨[], [], [viewBinding "a\x85b"]⟩ := rfl
  refine ⟨hresult, fun hread => ?_⟩
  have hdocuments := (complete_of_resolve_eq_ok hresult).isDocument
  rw [Produced.render_eq] at hread
  have hname := (loadAll_render_eq_iff hdocuments).mp hread (viewBinding "a\x85b").manifest
    List.mem_cons_self "a\x85b" (by decide) (by decide)
  exact hname (by decide)

end RoleGrants
