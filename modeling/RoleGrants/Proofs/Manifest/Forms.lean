import RoleGrants.Proofs.Files.Writing
import RoleGrants.Proofs.Yaml.Documents

/-!
# Printed and written manifests

What was produced is printed as one stream, or written to a folder with a file for each kind of
object.  Both are the same text: every manifest is a mapping that is not empty, and a stream of such
documents is the streams of its parts with marker lines between them.  `render_joins_files` says so
of the contents that are read back from the files.
-/

namespace RoleGrants

open RoleGrants.Yaml

namespace Produced

/-- Manifests are mappings that are not empty, whatever they are the manifests of. -/
theorem hasEntries (p : Produced) : ∀ f ∈ p.manifests, ∀ doc ∈ f.2, HasEntries doc := by
  intro f hf doc hdoc
  simp only [manifests, List.mem_cons, List.not_mem_nil, or_false] at hf
  rcases hf with rfl | rfl | rfl
  all_goals
    obtain ⟨object, -, rfl⟩ := List.mem_map.mp hdoc
    exact ⟨_, List.cons_ne_nil _ _, rfl⟩

/-- What is printed is what the files hold, the empty ones left out, with marker lines between. -/
theorem render_eq_intercalate_files (p : Produced) :
    p.render = "---\n".intercalate
      ((p.manifests.map fun f => Yaml.render f.2).filter (· ≠ "")) := by
  have hgroups : ∀ docs ∈ p.manifests.map Prod.snd, ∀ doc ∈ docs, HasEntries doc :=
    List.forall_mem_map.mpr p.hasEntries
  have hjoined := render_flatten hgroups
  rw [List.map_map] at hjoined
  rw [render, List.flatMap_def]
  exact hjoined

end Produced

/-- The files of manifests have names of their own. -/
theorem manifests_isName (p : Produced) : ∀ f ∈ p.manifests, FileTree.IsName f.1 := by
  have hall : ∀ name ∈ manifestFiles, FileTree.IsName name := by
    simp only [manifestFiles, List.forall_mem_cons]
    refine ⟨⟨rfl, by decide⟩, ⟨rfl, by decide⟩, ⟨rfl, by decide⟩, List.forall_mem_nil _⟩
  intro f hf
  apply hall
  rw [← p.manifests_files]
  exact List.mem_map_of_mem hf

/-- Manifests are written into the folder as it is made. -/
theorem ManifestFiles.of_write {files : ManifestFiles} {t : FileTree} {folder : Path}
    {paths : List Path} (written : (files.write t folder).1 = .ok paths) :
    ∃ made, writeInto folder made files = (.ok paths, (files.write t folder).2) := by
  unfold write at written ⊢
  generalize t.ensureFolder folder = made at written ⊢
  obtain ⟨fault, made⟩ := made
  cases fault with
  | some fault => cases written
  | none => exact ⟨made, Prod.ext written rfl⟩

/-- When the manifests of what was produced are written to a folder, one file is written for each
kind of object in the order of the files, and what is printed of it is the contents of these files,
the empty ones left out, with marker lines between. -/
theorem render_joins_files (p : Produced) (t : FileTree) (folder : Path) {paths : List Path}
    (written : (p.manifests.write t folder).1 = .ok paths) :
    paths = manifestFiles.map folder.child ∧
      ∃ contents : List String,
        paths.map (p.manifests.write t folder).2.read = contents.map (fun c => .ok (.inl c)) ∧
        p.render = "---\n".intercalate (contents.filter (· ≠ "")) := by
  obtain ⟨made, hmade⟩ := ManifestFiles.of_write written
  have hread := ManifestFiles.read_of_writeInto (manifests_isName p)
    (by rw [p.manifests_files]; decide) hmade
  refine ⟨?_, p.manifests.map fun f => Yaml.render f.2, ?_, p.render_eq_intercalate_files⟩
  · rw [ManifestFiles.paths_of_writeInto hmade, ← p.manifests_files, List.map_map]
    rfl
  · rw [hread, List.map_map]
    rfl

/-- What is produced of an account and a cluster-wide grant: two kinds of objects and no role
bindings. -/
def accountAndGrant : Produced where
  serviceAccounts := [⟨"bot", some "ci", managedLabels, []⟩]
  roleBindings := []
  clusterRoleBindings := [
    ⟨⟨"team-dev-view", none, managedLabels, []⟩, { kind := .clusterRole, name := "view" },
      [⟨.serviceAccount, "bot", some "ci", none⟩]⟩]

/-- Written to a folder that is not there yet, one of its files is empty. -/
theorem accountAndGrant_written :
    (accountAndGrant.manifests.write (FileTree.empty ["work"]) ⟨0, ["out"]⟩).1 =
        .ok (manifestFiles.map (Path.child ⟨0, ["out"]⟩)) ∧
      ∃ contents : List String,
        (manifestFiles.map (Path.child ⟨0, ["out"]⟩)).map
            (accountAndGrant.manifests.write (FileTree.empty ["work"]) ⟨0, ["out"]⟩).2.read =
          contents.map (fun c => .ok (.inl c)) ∧
        accountAndGrant.render = "---\n".intercalate (contents.filter (· ≠ "")) := by
  have written : (accountAndGrant.manifests.write (FileTree.empty ["work"]) ⟨0, ["out"]⟩).1 =
      .ok (manifestFiles.map (Path.child ⟨0, ["out"]⟩)) := by rfl
  exact ⟨written,
    (render_joins_files accountAndGrant (FileTree.empty ["work"]) ⟨0, ["out"]⟩ written).2⟩

end RoleGrants
