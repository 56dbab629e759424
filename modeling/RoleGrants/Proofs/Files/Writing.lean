import Mathlib.Data.List.Nodup
import RoleGrants.Manifest.Output

/-!
# Writing files into a folder

Putting a text at a place that is no folder keeps all folders, so every path that led somewhere still
leads there.  Hence files with different names that are written into one folder do not get in each
other's way: when all of them are written, each is read back from its path (`read_of_writeInto`), and
the tree is the one before with just these texts put into it (`writeInto_eq_ok`).
-/

namespace RoleGrants

namespace FileTree

variable {t u v : FileTree} {p : Path} {place base : List String} {content : String}

/-! ## Folders stay -/

/-- Every folder of one tree is one of the other, which has the same working folder. -/
structure KeepsFolders (t u : FileTree) : Prop where
  workingFolder : u.workingFolder = t.workingFolder
  folders : ∀ place, t.entryAt place = some .folder → u.entryAt place = some .folder

theorem KeepsFolders.refl (t : FileTree) : t.KeepsFolders t := ⟨rfl, fun _ h => h⟩

theorem KeepsFolders.trans (h : t.KeepsFolders u) (h' : u.KeepsFolders v) : t.KeepsFolders v :=
  ⟨h'.workingFolder.trans h.workingFolder, fun place hplace => h'.folders place (h.folders place hplace)⟩

/-- A text takes the place of no folder. -/
theorem keepsFolders_put (h : t.isFolder place = false) :
    t.KeepsFolders (t.put place (.text content)) := by
  refine ⟨rfl, ?_⟩
  intro other hother
  have hne : other ≠ place := by
    rintro rfl
    simp [isFolder, hother] at h
  rw [entryAt_put_of_ne t hne]
  exact hother

theorem KeepsFolders.follow (h : t.KeepsFolders u) {start : List String} {names : List String}
    (hfollow : t.follow start names = .ok place) : u.follow start names = .ok place := by
  induction names generalizing start with
  | nil => exact hfollow
  | cons name rest ih =>
      rw [FileTree.follow] at hfollow ⊢
      split at hfollow
      · rename_i hrest
        rw [if_pos hrest]
        exact hfollow
      · rename_i hrest
        rw [if_neg hrest]
        split at hfollow
        · rename_i hfolder
          rw [h.folders _ hfolder]
          exact ih hfollow
        · cases hfollow
        · cases hfollow

/-- Paths lead where they led. -/
theorem KeepsFolders.locate (h : t.KeepsFolders u) (hlocate : t.locate p = .ok place) :
    u.locate p = .ok place := by
  rw [FileTree.locate, h.workingFolder]
  exact h.follow hlocate

/-! ## Files in a folder -/

/-- A name that is a path of one step down. -/
def IsName (name : String) : Prop := Path.ofText name = ⟨0, [name]⟩ ∧ name ≠ ".."

/-- The last step of a path goes down from where the steps before it lead. -/
theorem follow_concat {start names : List String} {name : String} (hname : name ≠ "..")
    (h : t.follow start (names ++ [name]) = .ok place) :
    ∃ base, t.follow start names = .ok base ∧ place = base ++ [name] := by
  induction names generalizing start with
  | nil =>
      refine ⟨start, rfl, ?_⟩
      simpa [FileTree.follow, hname] using h.symm
  | cons step rest ih =>
      rw [List.cons_append, FileTree.follow] at h
      rw [if_neg (by simp)] at h
      split at h
      · rename_i hfolder
        obtain ⟨base, hbase, hplace⟩ := ih h
        refine ⟨base, ?_, hplace⟩
        rw [FileTree.follow]
        split
        · rename_i hrest
          rw [List.isEmpty_iff.mp hrest] at hbase
          exact hbase
        · rw [hfolder]
          exact hbase
      · cases h
      · cases h

/-- A file lies in the folder that its path names. -/
theorem locate_child {folder : Path} {name : String} (hname : IsName name)
    (h : t.locate (folder.child name) = .ok place) :
    ∃ base, t.locate folder = .ok base ∧ place = base ++ [name] := by
  have hchild : folder.child name = ⟨folder.slashes, folder.parts ++ [name]⟩ := by
    rw [Path.child, hname.1]
    rfl
  rw [hchild] at h
  exact follow_concat hname.2 h

theorem write_eq_ok_iff : t.write p content = .ok u ↔
    ∃ place, t.locate p = .ok place ∧ t.isFolder place = false ∧
      u = t.put place (.text content) := by
  unfold write
  cases t.locate p with
  | error problem => simp [fault]
  | ok place =>
      cases hfolder : t.isFolder place with
      | true => simp [fault, hfolder]
      | false => simp [hfolder, eq_comm (a := u)]

/-- Texts put under their names into a folder, one after the other. -/
def putTexts (base : List String) (texts : List (String × String)) (t : FileTree) : FileTree :=
  texts.foldl (fun t x => t.put (base ++ [x.1]) (.text x.2)) t

/-- A place that is none of the names' is as it was. -/
theorem entryAt_putTexts_of_ne {texts : List (String × String)}
    (h : ∀ x ∈ texts, place ≠ base ++ [x.1]) (t : FileTree) :
    (t.putTexts base texts).entryAt place = t.entryAt place := by
  induction texts generalizing t with
  | nil => rfl
  | cons x rest ih =>
      obtain ⟨hx, hrest⟩ := List.forall_mem_cons.mp h
      have hrest' := ih hrest (t.put (base ++ [x.1]) (.text x.2))
      rw [putTexts, List.foldl_cons]
      exact hrest'.trans (entryAt_put_of_ne t hx _)

/-- Under each name is its text, if no name is given twice. -/
theorem entryAt_putTexts {texts : List (String × String)} (hnodup : (texts.map Prod.fst).Nodup)
    {x : String × String} (hx : x ∈ texts) (t : FileTree) :
    (t.putTexts base texts).entryAt (base ++ [x.1]) = some (.text x.2) := by
  induction texts generalizing t with
  | nil => cases hx
  | cons y rest ih =>
      rw [List.map_cons, List.nodup_cons] at hnodup
      rw [putTexts, List.foldl_cons]
      rcases List.mem_cons.mp hx with rfl | hx
      · have hlater : ∀ z ∈ rest, base ++ [x.1] ≠ base ++ [z.1] := by
          intro z hz heq
          have hname : x.1 = z.1 := by simpa using heq
          exact hnodup.1 (hname ▸ List.mem_map_of_mem hz)
        exact (entryAt_putTexts_of_ne hlater _).trans (entryAt_put t (by simp) _)
      · exact ih hnodup.2 hx _

end FileTree

open FileTree

namespace ManifestFiles

variable {t u : FileTree} {folder : Path} {files : ManifestFiles} {paths : List Path}
  {base : List String}

/-- The names and texts of files. -/
def texts (files : ManifestFiles) : List (String × String) :=
  files.map fun f => (f.1, Yaml.render f.2)

theorem texts_names (files : ManifestFiles) : files.texts.map Prod.fst = files.map Prod.fst := by
  simp [texts]

/-- If all files are written, so is the first one, and then the others. -/
theorem of_writeInto_cons {file : String} {docs : List Json} {rest : ManifestFiles}
    (h : writeInto folder t ((file, docs) :: rest) = (.ok paths, u)) :
    ∃ v more, t.write (folder.child file) (Yaml.render docs) = .ok v ∧
      writeInto folder v rest = (.ok more, u) ∧ paths = folder.child file :: more := by
  rw [writeInto] at h
  cases hwrite : t.write (folder.child file) (Yaml.render docs) with
  | error fault => simp [hwrite] at h
  | ok v =>
      cases hmore : writeInto folder v rest with
      | mk result v' =>
          simp only [hwrite, hmore] at h
          cases result with
          | error fault => simp at h
          | ok more =>
              cases h
              exact ⟨v, more, rfl, hmore, rfl⟩

/-- The paths of files that are all written. -/
theorem paths_of_writeInto (h : writeInto folder t files = (.ok paths, u)) :
    paths = files.map (folder.child ·.1) := by
  induction files generalizing t paths with
  | nil =>
      cases h
      rfl
  | cons f rest ih =>
      obtain ⟨v, more, -, hmore, rfl⟩ := of_writeInto_cons h
      exact congrArg (folder.child f.1 :: ·) (ih hmore)

/-- Files that are all written are put under their names into the folder, and nothing else is
done. -/
theorem writeInto_eq_ok (hnames : ∀ f ∈ files, IsName f.1) (hbase : t.locate folder = .ok base)
    (h : writeInto folder t files = (.ok paths, u)) :
    u = t.putTexts base files.texts ∧ t.KeepsFolders u ∧
      ∀ f ∈ files, u.locate (folder.child f.1) = .ok (base ++ [f.1]) := by
  induction files generalizing t paths with
  | nil =>
      cases h
      exact ⟨rfl, .refl _, List.forall_mem_nil _⟩
  | cons f rest ih =>
      obtain ⟨file, docs⟩ := f
      obtain ⟨hname, hnames⟩ := List.forall_mem_cons.mp hnames
      obtain ⟨v, more, hwrite, hmore, rfl⟩ := of_writeInto_cons h
      obtain ⟨place, hplace, hfolder, rfl⟩ := write_eq_ok_iff.mp hwrite
      obtain ⟨base', hbase', rfl⟩ := locate_child hname hplace
      obtain rfl : base = base' := Except.ok.inj (hbase.symm.trans hbase')
      have hput : t.KeepsFolders (t.put (base ++ [file]) (.text (Yaml.render docs))) :=
        keepsFolders_put hfolder
      obtain ⟨rfl, hkeeps, hlocate⟩ := ih hnames (hput.locate hbase) hmore
      exact ⟨rfl, hput.trans hkeeps,
        List.forall_mem_cons.mpr ⟨(hput.trans hkeeps).locate hplace, hlocate⟩⟩

/-- Files with different names that are all written are read back from their paths. -/
theorem read_of_writeInto (hnames : ∀ f ∈ files, IsName f.1) (hnodup : (files.map Prod.fst).Nodup)
    (h : writeInto folder t files = (.ok paths, u)) :
    paths.map u.read = files.map fun f => .ok (.inl (Yaml.render f.2)) := by
  cases files with
  | nil =>
      cases h
      rfl
  | cons f rest =>
      obtain ⟨v, more, hwrite, -, -⟩ := of_writeInto_cons h
      obtain ⟨place, hplace, -⟩ := write_eq_ok_iff.mp hwrite
      obtain ⟨base, hbase, -⟩ := locate_child (hnames f List.mem_cons_self) hplace
      obtain ⟨rfl, -, hlocate⟩ := writeInto_eq_ok hnames hbase h
      rw [paths_of_writeInto h, List.map_map]
      refine List.map_congr_left fun g hg => ?_
      have hentry : (t.putTexts base (texts (f :: rest))).entryAt (base ++ [g.1]) =
          some (.text (Yaml.render g.2)) := by
        rw [← texts_names] at hnodup
        exact entryAt_putTexts hnodup (List.mem_map_of_mem hg) t
      rw [Function.comp_apply, FileTree.read, hlocate g hg]
      simp only [hentry]

end ManifestFiles

end RoleGrants
