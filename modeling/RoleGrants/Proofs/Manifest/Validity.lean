import RoleGrants.Manifest.Output
import RoleGrants.Proofs.Resolution.Naming
import RoleGrants.Proofs.Schema.RoundTrip

/-!
# Produced manifests are valid

The check of manifests knows nothing of how they come to be: it asks for what the cluster requires.
What a resolution produces has all of it, with one exception. A directory may list a namespace whose
name is empty, and then the role binding in that namespace is found to have none.
-/

namespace RoleGrants

namespace Manifest

/-! ## Checking manifests one after the other -/

/-- The message on a problem of the manifest at a position of a file. -/
def messageAt (file : String) (position : Nat) (problem : ManifestProblem) : String :=
  file ++ "[" ++ String.ofList (Number.decimal position) ++ "]: " ++ problem.message

/-- The messages on a file are those on its manifests. -/
theorem checkFile_map {α : Type} {f : α → Json} {problems : α → List ManifestProblem} {xs : List α}
    (h : ∀ x ∈ xs, check (f x) = .ok (problems x)) (file : String) (position : Nat) :
    checkFile file position (xs.map f) =
      .ok ((xs.zipIdx position).flatMap fun x => (problems x.1).map (messageAt file x.2)) := by
  induction xs generalizing position with
  | nil => rfl
  | cons x rest ih =>
    rw [List.forall_mem_cons] at h
    rw [List.map_cons, checkFile, h.1, ih h.2]
    rfl

/-- A file whose manifests have no problems has no messages. -/
theorem checkFile_map_of_sound {α : Type} {f : α → Json} {xs : List α}
    (h : ∀ x ∈ xs, check (f x) = .ok []) (file : String) (position : Nat) :
    checkFile file position (xs.map f) = .ok [] := by
  rw [checkFile_map h]
  simp

end Manifest

open Manifest

/-! ## Single manifests -/

/-- Whether metadata names no namespace, or an empty one. -/
def ObjectMeta.nowhere (m : ObjectMeta) : Bool := (m.namespaceName.getD "").isEmpty

/-- What is wrong with the metadata of an object of a kind. -/
def ObjectMeta.problems (kind : String) (m : ObjectMeta) : List ManifestProblem :=
  (if namespacedKinds.contains kind && m.nowhere then [.missingNamespace kind] else []) ++
    if kind = "ClusterRoleBinding" && m.namespaceName.isSome then [.unwantedNamespace] else []

/-- The name and the namespace are found in the block of a manifest. -/
theorem ObjectMeta.manifest_eq_object (m : ObjectMeta) :
    ∃ entries, m.manifest = .object entries ∧
      Json.find? "name" entries = some (.text m.name) ∧
      Json.find? "namespace" entries = m.namespaceName.map Json.text := by
  refine ⟨_, rfl, rfl, ?_⟩
  cases m.namespaceName with
  | some n => rfl
  | none =>
    by_cases howners : m.owners.isEmpty
    · simp [Json.find?, howners]
    · simp [Json.find?, howners]

theorem Manifest.checkMetadata_eq_problems (kind : String) {m : ObjectMeta}
    {entries : List (String × Json)} (hname : Json.find? "name" entries = some (.text m.name))
    (hnamespace : Json.find? "namespace" entries = m.namespaceName.map Json.text) :
    checkMetadata (some kind) entries = m.problems kind := by
  unfold checkMetadata ObjectMeta.problems ObjectMeta.nowhere
  rw [hname, hnamespace]
  cases m.namespaceName with
  | none => simp
  | some n => simp [Json.isBlank]

/-- Of an object of a known kind, the metadata is checked, and what it binds if it is a binding. -/
theorem Manifest.check_object {kind : String} (known : kind ∈ manifestKinds) (version : Json)
    (m : ObjectMeta) (more : List (String × Json)) :
    let entries :=
      ("apiVersion", version) :: ("kind", .text kind) :: ("metadata", m.manifest) :: more
    check (.object entries) = .ok (m.problems kind ++ checkBinding (some kind) entries) := by
  obtain ⟨block, hblock, hname, hnamespace⟩ := m.manifest_eq_object
  have hmissing : (requiredFields.filterMap fun field =>
      if (Json.find? field (("apiVersion", version) :: ("kind", Json.text kind) ::
        ("metadata", m.manifest) :: more)).isSome then none
      else some (ManifestProblem.missingField field)) = [] := rfl
  intro entries
  rw [check, checkEntries]
  simp only [entries, hmissing]
  simp [Json.find?, hblock, kindText?, known, lookUpKind, isCollection,
    checkMetadata_eq_problems kind hname hnamespace]
  -- The kind is looked up, unless it is empty, and that comes to nothing.
  intro _
  rfl

theorem ServiceAccount.check_manifest (a : ServiceAccount) :
    check a.manifest = .ok (a.metadata.problems "ServiceAccount") := by
  have hcheck := check_object (by decide : "ServiceAccount" ∈ manifestKinds) (.text "v1")
    a.metadata []
  rw [ServiceAccount.manifest, hcheck]
  simp [checkBinding, bindingKinds]

/-- Of a binding that has subjects, only the metadata can be wrong. -/
theorem check_bindingManifest {kind : String} (known : kind ∈ bindingKinds) (m : ObjectMeta)
    (role : RoleRef) {subjects : List Subject} (hsubjects : subjects ≠ []) :
    check (bindingManifest kind m role subjects) = .ok (m.problems kind) := by
  have hknown : kind ∈ manifestKinds := by
    simp only [bindingKinds, manifestKinds, List.mem_cons] at known ⊢
    rcases known with rfl | rfl | h
    · simp
    · simp
    · cases h
  have hrole : role.manifest.isBlank = false := rfl
  have hblank : (Json.array (subjects.map Subject.manifest)).isBlank = false := by
    simpa [Json.isBlank] using hsubjects
  rw [bindingManifest, check_object hknown]
  simp [checkBinding, Json.find?, hrole, hblank]

/-! ## What is read from a document -/

/-- Every service account of a definition has a namespace, and no grant names an empty one. -/
structure Definition.Placed (d : Definition) : Prop where
  accounts : ∀ b ∈ d.bindings, ∀ u ∈ b.subjects, u.kind = .serviceAccount →
    u.namespaceName.getD "" ≠ ""
  grants : ∀ b ∈ d.bindings, ∀ g ∈ b.namespaceGrants, g.namespaceName ≠ some ""

open RoleGrants.Schema

theorem givenText_ne_empty {v : Value} {o : Option String} (h : givenText v = .ok o) :
    o ≠ some "" := by
  obtain ⟨o', -, rfl⟩ := Check.map_eq_ok h
  rintro hempty
  obtain ⟨-, hne⟩ := Option.filter_eq_some_iff.mp hempty
  simp at hne

theorem Subject.namespace_ne_of_read {v : Value} {u : Subject} (h : Subject.read v = .ok u)
    (hkind : u.kind = .serviceAccount) : u.namespaceName.getD "" ≠ "" := by
  have hrule := Check.obey_eq_ok h
  intro hempty
  simp [Subject.rule, hkind, hempty] at hrule

theorem NamespaceGrant.namespace_ne_of_read {v : Value} {g : NamespaceGrant}
    (h : NamespaceGrant.read v = .ok g) : g.namespaceName ≠ some "" := by
  obtain ⟨entries, hread⟩ := Fields.of_closed h
  obtain ⟨role, clusterRole, namespaceName, selector, -, -, hnamespace, -, rfl⟩ :=
    Fields.four_eq_ok_iff.1 hread
  rcases Fields.of_withDefault hnamespace with rfl | ⟨v, hv⟩
  · rintro ⟨⟩
  · exact givenText_ne_empty hv

theorem Binding.placed_of_read {v : Value} {b : Binding} (h : Binding.read v = .ok b) :
    (∀ u ∈ b.subjects, u.kind = .serviceAccount → u.namespaceName.getD "" ≠ "") ∧
      ∀ g ∈ b.namespaceGrants, g.namespaceName ≠ some "" := by
  obtain ⟨entries, hread⟩ := Fields.of_closed h
  obtain ⟨name, subjects, clusterGrants, grants, -, hsubjects, -, hgrants, rfl⟩ :=
    Fields.four_eq_ok_iff.1 hread
  constructor
  · intro u hu
    obtain ⟨w, hw⟩ := Fields.of_mem_withDefault hsubjects hu
    exact Subject.namespace_ne_of_read hw
  · intro g hg
    obtain ⟨w, hw⟩ := Fields.of_mem_withDefault hgrants hg
    exact NamespaceGrant.namespace_ne_of_read hw

theorem Definition.placed_of_read {v : Value} {d : Definition}
    (accepted : Definition.read v = .ok d) : d.Placed := by
  obtain ⟨entries, hread⟩ := Fields.of_closed (Check.of_obey accepted)
  obtain ⟨apiVersion, kind, metadata, bindings, -, -, -, hbindings, rfl⟩ :=
    Fields.four_eq_ok_iff.1 hread
  constructor
  · intro b hb
    obtain ⟨w, hw⟩ := Fields.of_mem_withDefault hbindings hb
    exact (Binding.placed_of_read hw).1
  · intro b hb
    obtain ⟨w, hw⟩ := Fields.of_mem_withDefault hbindings hb
    exact (Binding.placed_of_read hw).2

/-! ## What is produced -/

variable {d : Definition}

theorem Definition.Placed.account_check (placed : d.Placed) (answers : List (List String)) :
    ∀ a ∈ (d.objects answers).serviceAccounts, check a.manifest = .ok [] := by
  intro a ha
  obtain ⟨b, hb, ha⟩ := List.mem_flatMap.mp ha
  obtain ⟨u, hu, rfl⟩ := List.mem_map.mp ha
  obtain ⟨hu, hkind⟩ := List.mem_filter.mp hu
  have hnamespace := placed.accounts b hb u hu (by simpa using hkind)
  have hsomewhere : (d.metadataOf u.name u.namespaceName).nowhere = false := by
    simpa [ObjectMeta.nowhere, Definition.metadataOf] using hnamespace
  rw [ServiceAccount.check_manifest]
  simp [ObjectMeta.problems, hsomewhere]

theorem Definition.WellFormed.cluster_check (wf : d.WellFormed) (answers : List (List String)) :
    ∀ c ∈ (d.objects answers).clusterRoleBindings, check c.manifest = .ok [] := by
  intro c hc
  obtain ⟨b, hb, g, -, rfl⟩ := exists_of_mem_clusterRoleBindings hc
  rw [ClusterRoleBinding.manifest, clusterBindingOf_eq,
    check_bindingManifest (by decide) _ _ (wf.subjects b hb)]
  rfl

/-- A role binding lacks nothing but a namespace, if the name of that is empty. -/
theorem Definition.WellFormed.role_check (wf : d.WellFormed) (answers : List (List String)) :
    ∀ x ∈ (d.objects answers).roleBindings, check x.manifest =
      .ok (if x.metadata.namespaceName = some "" then [.missingNamespace "RoleBinding"] else []) := by
  intro x hx
  obtain ⟨b, hb, g, -, n, rfl⟩ := exists_of_mem_roleBindings hx
  rw [RoleBinding.manifest, roleBindingOf_eq,
    check_bindingManifest (by decide) _ _ (wf.subjects b hb)]
  simp [ObjectMeta.problems, ObjectMeta.nowhere, Definition.metadataOf, namespacedKinds]

theorem Definition.grants_countP_usesSelector (d : Definition) :
    d.grants.countP (fun bg => bg.2.usesSelector) = d.selectors.length := by
  rw [selectors, List.length_filterMap_eq_countP]
  rfl

/-- Role bindings are built from empty names as often as these are among the answers. -/
theorem Definition.Placed.count_nameless {answers : List (List String)} (placed : d.Placed)
    (hlength : answers.length = d.selectors.length) :
    (d.objects answers).roleBindings.countP (fun x => x.metadata.namespaceName = some "") =
      answers.flatten.count "" := by
  rw [← d.grants_countP_usesSelector] at hlength
  rw [← dealt_flatMap_snd _ hlength, objects, List.countP_flatMap, List.count_flatMap]
  refine congrArg List.sum (List.map_congr_left ?_)
  rintro ⟨⟨b, g⟩, answer⟩ hx
  have hnamespace (n : String) : (d.roleBindingOf b g n).metadata.namespaceName = some n := by
    rw [roleBindingOf_eq]
    rfl
  by_cases hg : g.usesSelector
  · simp [hg, List.countP_map, Function.comp_def, hnamespace, List.count_eq_countP, beq_eq_decide]
  · -- A grant without a selector names no empty namespace.
    obtain ⟨hb, hmem⟩ := of_mem_dealt_grants hx
    have hne : ∀ n, g.namespaceName = some n → n ≠ "" := by
      rintro n hn rfl
      exact placed.grants b hb g hmem hn
    simpa [hg, hnamespace] using hne

/-! ## The check of what is produced -/

/-- The messages on role bindings that were built from empty names, each with the position of its
binding. -/
def Produced.namelessMessages (p : Produced) : List String :=
  (p.roleBindings.zipIdx.filter fun x => x.1.metadata.namespaceName = some "").map fun x =>
    "rolebindings.yaml[" ++ String.ofList (Number.decimal x.2) ++
      "]: metadata.namespace is required for RoleBinding"

theorem Produced.length_namelessMessages (p : Produced) :
    p.namelessMessages.length =
      p.roleBindings.countP fun x => x.metadata.namespaceName = some "" := by
  rw [namelessMessages, List.length_map, ← List.countP_eq_length_filter]
  conv_rhs => rw [← List.zipIdx_map_fst 0 p.roleBindings, List.countP_map]
  rfl

theorem messageAt_roleBindings (position : Nat) :
    messageAt "rolebindings.yaml" position (.missingNamespace "RoleBinding") =
      "rolebindings.yaml[" ++ String.ofList (Number.decimal position) ++
        "]: metadata.namespace is required for RoleBinding" := by
  have hfile : "rolebindings.yaml" ++ "[" = "rolebindings.yaml[" := rfl
  have hproblem : "]: " ++ (ManifestProblem.missingNamespace "RoleBinding").message =
      "]: metadata.namespace is required for RoleBinding" := rfl
  rw [messageAt, hfile, String.append_assoc, hproblem]

/-- These are the messages of the check of role bindings that lack nothing else. -/
theorem Produced.namelessMessages_eq (p : Produced) :
    p.namelessMessages = p.roleBindings.zipIdx.flatMap fun x =>
      (if x.1.metadata.namespaceName = some "" then [.missingNamespace "RoleBinding"]
        else []).map (messageAt "rolebindings.yaml" x.2) := by
  unfold namelessMessages
  induction p.roleBindings.zipIdx with
  | nil => rfl
  | cons x rest ih =>
    rw [List.flatMap_cons, ← ih]
    by_cases hx : x.1.metadata.namespaceName = some ""
    · simp [hx, messageAt_roleBindings]
    · simp [hx]

theorem Definition.checkAll_objects (wf : d.WellFormed) (placed : d.Placed)
    (answers : List (List String)) :
    checkAll (d.objects answers).manifests = .ok (d.objects answers).namelessMessages := by
  have hroles := checkFile_map (wf.role_check answers) "rolebindings.yaml" 0
  rw [← Produced.namelessMessages_eq] at hroles
  rw [Produced.manifests]
  simp only [checkAll, checkFile_map_of_sound (placed.account_check answers), hroles,
    checkFile_map_of_sound (wf.cluster_check answers)]
  exact congrArg Except.ok (List.append_nil _)

/-- What a definition that was read from a document is resolved to passes the check of manifests,
if no namespace with an empty name was listed by the directory. Else there is one message for each
role binding that was built from an empty name, and no other: as many as there are empty names among
the answers. -/
theorem check_resolved {v : Value} {d : Definition} (accepted : Definition.read v = .ok d)
    {σ : Type} {directory : Option (Directory σ)} {s : σ}
    (contract : Directory.ListsNames directory s) {p : Produced}
    (resolved : (d.resolve directory s).result = .ok p) :
    ∃ answers s', Answered directory s d.selectors answers s' ∧ p = d.objects answers ∧
      validateAll p.manifests = .ok (decide ("" ∉ answers.flatten), p.namelessMessages) ∧
      p.namelessMessages.length = answers.flatten.count "" := by
  obtain ⟨wf, answers, s', answered, rfl⟩ :=
    (resolve_eq_ok_iff_objects d directory s contract p).mp resolved
  have placed := Definition.placed_of_read accepted
  have hcount : (d.objects answers).namelessMessages.length = answers.flatten.count "" := by
    rw [Produced.length_namelessMessages, placed.count_nameless answered.length_eq]
  refine ⟨answers, s', answered, rfl, ?_, hcount⟩
  have hvalid : ((d.objects answers).namelessMessages.length == 0) =
      decide ("" ∉ answers.flatten) := by
    rw [hcount, beq_eq_decide]
    exact decide_eq_decide.mpr List.count_eq_zero
  rw [validateAll, Definition.checkAll_objects wf placed, ← hvalid]
  rfl

/-- A document with an account, and a grant that is made wherever a directory says. -/
def everywhereDocument : Value :=
  .map [(.text "metadata", .map [(.text "name", .text "team")]),
    (.text "rbacBindings", .list [
      .map [(.text "name", .text "dev"),
        (.text "subjects", .list [
          .map [(.text "kind", .text "ServiceAccount"), (.text "name", .text "bot"),
            (.text "namespace", .text "ci")]]),
        (.text "clusterRoleBindings", .list [.map [(.text "clusterRole", .text "view")]]),
        (.text "roleBindings", .list [
          .map [(.text "clusterRole", .text "edit"),
            (.text "namespaceSelector", .map [
              (.text "matchLabels", .map [(.text "env", .text "test")])])]])]])]

/-- The definition in that document. -/
def everywhereAccess : Definition where
  apiVersion := Definition.defaultApiVersion
  metadata := ⟨"team", none⟩
  bindings := [
    { name := "dev"
      subjects := [⟨.serviceAccount, "bot", some "ci", none⟩]
      clusterGrants := [⟨"view"⟩]
      namespaceGrants := [⟨none, some "edit", none, some ⟨some [("env", "test")], none⟩⟩] }]

/-- The second of two namespaces has no name, and the binding in it is the only one with a
message. -/
theorem everywhereAccess_checked :
    Definition.read everywhereDocument = .ok everywhereAccess ∧
      Directory.ListsNames (some recited) [["qa", ""]] ∧
      ∃ p, (everywhereAccess.resolve (some recited) [["qa", ""]]).result = .ok p ∧
        validateAll p.manifests = .ok (false,
          ["rolebindings.yaml[1]: metadata.namespace is required for RoleBinding"]) := by
  have accepted : Definition.read everywhereDocument = .ok everywhereAccess := rfl
  have contract := recited_listsNames [["qa", ""]]
  have resolved : (everywhereAccess.resolve (some recited) [["qa", ""]]).result =
      .ok (everywhereAccess.objects [["qa", ""]]) := rfl
  refine ⟨accepted, contract, _, resolved, ?_⟩
  obtain ⟨answers, s', answered, -, hvalid, -⟩ := check_resolved accepted contract resolved
  have hanswers : Answered (some recited) [["qa", ""]] everywhereAccess.selectors [["qa", ""]] [] :=
    .cons rfl rfl (.nil _)
  obtain ⟨rfl, -⟩ := answered.unique hanswers
  exact hvalid

end RoleGrants
