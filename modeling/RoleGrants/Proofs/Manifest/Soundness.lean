import RoleGrants.Manifest.Validate

/-!
# What a passed check of a manifest says

A manifest in which nothing is wrong has everything that its kind requires, with one gap: whether
the kind is one of those that are produced is only asked of a kind that is not blank, and the later
checks ask nothing of an object of another kind.  `check_eq_nil_iff` says exactly which manifests
pass, of all data.
-/

namespace RoleGrants

namespace Manifest

/-! ## Fields that are given -/

/-- A field is there, and what it holds is not blank. -/
def Given (key : String) (entries : List (String × Json)) : Prop :=
  ∃ v, Json.find? key entries = some v ∧ v.isBlank = false

theorem given_iff {key : String} {entries : List (String × Json)} :
    Given key entries ↔ ((Json.find? key entries).map Json.isBlank).getD true = false := by
  unfold Given
  cases Json.find? key entries with
  | none => simp
  | some v => simp

/-! ## Manifests with what they need -/

variable {entries metadata : List (String × Json)} {kind : Json}

/-- What every manifest has, whatever its kind. -/
structure Outlined (kind : Json) (metadata entries : List (String × Json)) : Prop where
  version : (Json.find? "apiVersion" entries).isSome
  kind_eq : Json.find? "kind" entries = some kind
  metadata_eq : Json.find? "metadata" entries = some (.object metadata)
  named : (Json.find? "name" metadata).isSome

/-- A kind of its own decides what else a manifest has: a namespace or none, and for a binding what
it binds to whom. -/
structure Furnished (kind : String) (metadata entries : List (String × Json)) : Prop where
  placed : kind ∈ namespacedKinds → Given "namespace" metadata
  unplaced : kind = "ClusterRoleBinding" → Json.find? "namespace" metadata = none
  role : kind ∈ bindingKinds → Given "roleRef" entries
  subjects : kind ∈ bindingKinds → Given "subjects" entries

/-- A manifest of one of the kinds that are produced, with all that is required of that kind. -/
def Sound (entries : List (String × Json)) : Prop :=
  ∃ kind metadata, kind ∈ manifestKinds ∧ Outlined (.text kind) metadata entries ∧
    Furnished kind metadata entries

/-- A manifest whose kind is blank, but no empty collection. -/
def Kindless (entries : List (String × Json)) : Prop :=
  ∃ kind metadata, kind.isBlank ∧ isCollection kind = false ∧ Outlined kind metadata entries

theorem Outlined.required (h : Outlined kind metadata entries) :
    ∀ name ∈ requiredFields, (Json.find? name entries).isSome := by
  simp only [requiredFields, List.forall_mem_cons]
  exact ⟨h.version, by simp [h.kind_eq], by simp [h.metadata_eq], List.forall_mem_nil _⟩

/-- No manifest is both. -/
theorem Sound.not_kindless (sound : Sound entries) : ¬ Kindless entries := by
  rintro ⟨kind, _, blank, -, kindless⟩
  obtain ⟨k, _, known, outlined, -⟩ := sound
  have hkind : kind = .text k := Option.some.inj (kindless.kind_eq.symm.trans outlined.kind_eq)
  subst hkind
  have hempty : k = "" := by simpa [Json.isBlank] using blank
  subst hempty
  simp [manifestKinds] at known

/-! ## What the single checks ask -/

/-- Of metadata, the check asks for a name and for what a known kind says about its namespace. -/
theorem checkMetadata_eq_nil_iff {kind : Option String} :
    checkMetadata kind metadata = [] ↔
      (Json.find? "name" metadata).isSome ∧
        (∀ k, kind = some k → k ∈ namespacedKinds → Given "namespace" metadata) ∧
        (kind = some "ClusterRoleBinding" → Json.find? "namespace" metadata = none) := by
  unfold checkMetadata
  rw [List.append_eq_nil_iff, List.append_eq_nil_iff, and_assoc]
  refine and_congr ?_ (and_congr ?_ ?_)
  · simp [Option.isSome_iff_ne_none]
  · cases kind with
    | none => simp
    | some k => simp [given_iff]
  · simp

/-- Of a binding, the check asks what it binds to whom, and of other kinds it asks nothing. -/
theorem checkBinding_eq_nil_iff {kind : Option String} :
    checkBinding kind entries = [] ↔
      ∀ k, kind = some k → k ∈ bindingKinds →
        Given "roleRef" entries ∧ Given "subjects" entries := by
  unfold checkBinding
  cases kind with
  | none => simp
  | some k =>
    by_cases binding : k ∈ bindingKinds
    · simp [binding, given_iff]
    · simp [binding]

/-- Both checks together, of a kind that is a text. -/
theorem furnished_iff {k : String} :
    Furnished k metadata entries ∧ (Json.find? "name" metadata).isSome ↔
      checkMetadata (some k) metadata = [] ∧ checkBinding (some k) entries = [] := by
  rw [checkMetadata_eq_nil_iff, checkBinding_eq_nil_iff]
  constructor
  · rintro ⟨furnished, named⟩
    refine ⟨⟨named, ?_, ?_⟩, ?_⟩
    · rintro _ ⟨⟩
      exact furnished.placed
    · rintro ⟨⟩
      exact furnished.unplaced rfl
    · rintro _ ⟨⟩ binding
      exact ⟨furnished.role binding, furnished.subjects binding⟩
  · rintro ⟨⟨named, placed, unplaced⟩, bound⟩
    exact ⟨⟨placed k rfl, fun hkind => unplaced (congrArg some hkind),
      fun binding => (bound k rfl binding).1, fun binding => (bound k rfl binding).2⟩, named⟩

/-! ## The whole check -/

/-- The kind of a manifest, null if it has none. -/
def kindOf (entries : List (String × Json)) : Json := (Json.find? "kind" entries).getD .null

/-- The required fields that a manifest does not have, and its kind if it is not blank and not
known. -/
def outlineProblems (entries : List (String × Json)) : List ManifestProblem :=
  (requiredFields.filterMap fun name =>
    if (Json.find? name entries).isSome then none else some (.missingField name)) ++
  if !(kindOf entries).isBlank &&
      !((kindText? (kindOf entries)).map manifestKinds.contains).getD false then
    [.unknownKind (kindOf entries)]
  else []

/-- The check of an object by its parts.  A kind that is not blank is looked up at once, and every
kind where the metadata is an object. -/
theorem checkEntries_eq (entries : List (String × Json)) :
    checkEntries entries =
      (if (kindOf entries).isBlank then .ok () else lookUpKind (kindOf entries)).bind fun _ =>
        match (Json.find? "metadata" entries).getD (.object []) with
        | .object metadata => (lookUpKind (kindOf entries)).map fun _ =>
            outlineProblems entries ++ checkMetadata (kindText? (kindOf entries)) metadata ++
              checkBinding (kindText? (kindOf entries)) entries
        | _ => .ok (outlineProblems entries ++ [.metadataNotObject]) := by
  unfold checkEntries outlineProblems kindOf
  dsimp only
  generalize (Json.find? "kind" entries).getD .null = kind
  generalize (Json.find? "metadata" entries).getD (.object []) = block
  generalize lookUpKind kind = looked
  cases kind.isBlank <;> cases looked <;> cases block <;> rfl

theorem checkEntries_eq_nil_iff :
    checkEntries entries = .ok [] ↔
      lookUpKind (kindOf entries) = .ok () ∧ outlineProblems entries = [] ∧
        ∃ metadata, (Json.find? "metadata" entries).getD (.object []) = .object metadata ∧
          checkMetadata (kindText? (kindOf entries)) metadata = [] ∧
          checkBinding (kindText? (kindOf entries)) entries = [] := by
  rw [checkEntries_eq]
  generalize (Json.find? "metadata" entries).getD (.object []) = block
  cases block with
  | object metadata =>
    cases lookUpKind (kindOf entries) with
    | ok u => simp [Except.bind, Except.map]
    | error fault => cases (kindOf entries).isBlank <;> simp [Except.bind, Except.map]
  | _ =>
    -- Metadata that is no object is a problem of its own.
    cases lookUpKind (kindOf entries) <;> cases (kindOf entries).isBlank <;> simp [Except.bind]

theorem lookUpKind_eq_ok_iff : lookUpKind kind = .ok () ↔ isCollection kind = false := by
  unfold lookUpKind
  cases isCollection kind with
  | true => simp
  | false => simp

theorem known_iff :
    ((kindText? kind).map manifestKinds.contains).getD false = true ↔
      ∃ k ∈ manifestKinds, kind = .text k := by
  cases kind with
  | text s => simp [kindText?]
  | _ => simp [kindText?]

theorem outlineProblems_eq_nil_iff :
    outlineProblems entries = [] ↔
      (∀ name ∈ requiredFields, (Json.find? name entries).isSome) ∧
        ((kindOf entries).isBlank = false → ∃ k ∈ manifestKinds, kindOf entries = .text k) := by
  unfold outlineProblems
  rw [List.append_eq_nil_iff, List.filterMap_eq_nil_iff]
  refine and_congr (forall₂_congr fun name _ => ?_) ?_
  · by_cases hname : (Json.find? name entries).isSome
    · simp [hname]
    · simp [hname]
  · rw [← known_iff]
    simp

/-- The outline of a manifest, from the single checks of it. -/
theorem outlined_iff :
    Outlined kind metadata entries ↔
      kindOf entries = kind ∧ (Json.find? "metadata" entries).getD (.object []) = .object metadata ∧
        (∀ name ∈ requiredFields, (Json.find? name entries).isSome) ∧
        (Json.find? "name" metadata).isSome := by
  constructor
  · intro outlined
    exact ⟨by simp [kindOf, outlined.kind_eq], by simp [outlined.metadata_eq], outlined.required,
      outlined.named⟩
  · rintro ⟨hkind, hmetadata, required, named⟩
    simp only [requiredFields, List.forall_mem_cons] at required
    obtain ⟨version, hasKind, hasMetadata, -⟩ := required
    obtain ⟨k, hk⟩ := Option.isSome_iff_exists.mp hasKind
    obtain ⟨block, hblock⟩ := Option.isSome_iff_exists.mp hasMetadata
    rw [kindOf, hk] at hkind
    rw [hblock] at hmetadata
    exact ⟨version, hk.trans (congrArg some hkind), hblock.trans (congrArg some hmetadata), named⟩

/-- A sound manifest has a kind that is not blank, and passes. -/
theorem Sound.check_eq_nil (sound : Sound entries) : checkEntries entries = .ok [] := by
  obtain ⟨kind, metadata, known, outlined, furnished⟩ := sound
  obtain ⟨hkind, hmetadata, required, named⟩ := outlined_iff.mp outlined
  obtain ⟨checked, bound⟩ := furnished_iff.mp ⟨furnished, named⟩
  rw [checkEntries_eq_nil_iff, outlineProblems_eq_nil_iff, hkind]
  exact ⟨rfl, ⟨required, fun _ => ⟨kind, known, rfl⟩⟩, metadata, hmetadata, checked, bound⟩

/-- Of a blank kind, nothing but the outline is asked. -/
theorem Kindless.check_eq_nil (kindless : Kindless entries) : checkEntries entries = .ok [] := by
  obtain ⟨kind, metadata, blank, single, outlined⟩ := kindless
  obtain ⟨hkind, hmetadata, required, named⟩ := outlined_iff.mp outlined
  have hnone : ∀ k, kindText? kind = some k → k = "" := by
    cases kind with
    | text s => simpa [kindText?, Json.isBlank] using blank
    | _ => simp [kindText?]
  have checked : checkMetadata (kindText? kind) metadata = [] := by
    refine checkMetadata_eq_nil_iff.mpr ⟨named, fun k hk => ?_, fun hk => ?_⟩
    · rw [hnone k hk]
      simp [namespacedKinds]
    · simpa using hnone _ hk
  have bound : checkBinding (kindText? kind) entries = [] := by
    refine checkBinding_eq_nil_iff.mpr fun k hk => ?_
    rw [hnone k hk]
    simp [bindingKinds]
  rw [checkEntries_eq_nil_iff, outlineProblems_eq_nil_iff, hkind]
  exact ⟨lookUpKind_eq_ok_iff.mpr single, ⟨required, by simp [blank]⟩, metadata, hmetadata, checked,
    bound⟩

theorem sound_or_kindless_of_check (passed : checkEntries entries = .ok []) :
    Sound entries ∨ Kindless entries := by
  obtain ⟨looked, outline, metadata, hmetadata, checked, bound⟩ := checkEntries_eq_nil_iff.mp passed
  obtain ⟨required, known⟩ := outlineProblems_eq_nil_iff.mp outline
  have outlined : Outlined (kindOf entries) metadata entries :=
    outlined_iff.mpr ⟨rfl, hmetadata, required, (checkMetadata_eq_nil_iff.mp checked).1⟩
  cases hblank : (kindOf entries).isBlank with
  | true => exact .inr ⟨_, metadata, hblank, lookUpKind_eq_ok_iff.mp looked, outlined⟩
  | false =>
    obtain ⟨k, hk, hkind⟩ := known hblank
    rw [hkind] at outlined checked bound
    exact .inl ⟨k, metadata, hk, outlined, (furnished_iff.mpr ⟨checked, bound⟩).1⟩

/-- A manifest passes the check if and only if it is an object that has everything its kind
requires, one of the kinds that are produced, or that has a blank kind and what every manifest has.
No manifest is both. -/
theorem check_eq_nil_iff (manifest : Json) :
    (check manifest = .ok [] ↔
      ∃ entries, manifest = .object entries ∧ (Sound entries ∨ Kindless entries)) ∧
    ∀ entries, Sound entries → ¬ Kindless entries := by
  refine ⟨⟨fun passed => ?_, ?_⟩, fun _ => Sound.not_kindless⟩
  · cases manifest with
    | object entries => exact ⟨entries, rfl, sound_or_kindless_of_check passed⟩
    | _ => simp [check] at passed
  · rintro ⟨entries, rfl, sound | kindless⟩
    · exact sound.check_eq_nil
    · exact kindless.check_eq_nil

/-- A manifest whose kind is an empty text. -/
def kindlessManifest : List (String × Json) :=
  [("apiVersion", .text "v1"), ("kind", .text ""), ("metadata", .object [("name", .text "x")])]

/-- Nothing is found wrong with it, though its kind is none of those that are produced. -/
theorem kindlessManifest_passes :
    check (.object kindlessManifest) = .ok [] ∧
      Json.find? "kind" kindlessManifest = some (.text "") ∧ "" ∉ manifestKinds ∧
      ¬ Sound kindlessManifest := by
  have outlined : Outlined (.text "") [("name", .text "x")] kindlessManifest :=
    ⟨rfl, rfl, rfl, rfl⟩
  have kindless : Kindless kindlessManifest := ⟨_, _, rfl, rfl, outlined⟩
  exact ⟨kindless.check_eq_nil, rfl, by decide, fun sound => sound.not_kindless kindless⟩

end Manifest

end RoleGrants
