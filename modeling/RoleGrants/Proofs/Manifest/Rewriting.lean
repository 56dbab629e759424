import RoleGrants.Proofs.Files.Folders
import RoleGrants.Proofs.Manifest.Forms

/-!
# Writing manifests into one folder again and again

What is written into a folder takes the place of what was written there before, whatever that held
and also if there is nothing to write: a file is written for each kind of object.  So nothing but the
last writing shows (`last_writing_remains`).

One writing makes the folder and puts texts into it (`write_files_eq_ok_iff`).  Whether it succeeds
depends on the names of the files and not on their contents.  A second one finds the folder made and
puts other texts at the same places (`write_again`), and the run is an induction over that.
-/

namespace RoleGrants

namespace FileTree

variable {t u : FileTree} {place other base : List String} {content : String}

/-! ## Putting again -/

theorem putIn_putIn (e old : FileEntry) (entries : List (List String × FileEntry)) :
    putIn place e (putIn place old entries) = putIn place e entries := by
  induction entries with
  | nil => simp [putIn]
  | cons head rest ih =>
    by_cases h : head.1 = place
    · simp [putIn, h]
    · simp [putIn, h, ih]

/-- What is put at a place that was there does not depend on what is put elsewhere. -/
theorem putIn_comm {entries : List (List String × FileEntry)} (hne : place ≠ other)
    (hplace : place ∈ entries.map Prod.fst) (e f : FileEntry) :
    putIn place e (putIn other f entries) = putIn other f (putIn place e entries) := by
  induction entries with
  | nil => cases hplace
  | cons head rest ih =>
    by_cases hhead : head.1 = place
    · simp [putIn, hhead, hne]
    · have hrest := (List.mem_cons.mp hplace).resolve_left (Ne.symm hhead)
      by_cases hother : head.1 = other
      · simp [putIn, hother, Ne.symm hne]
      · simp [putIn, hhead, hother, ih hrest]

theorem mem_keys_putIn {entries : List (List String × FileEntry)} (e : FileEntry) :
    other ∈ (putIn place e entries).map Prod.fst ↔
      other = place ∨ other ∈ entries.map Prod.fst := by
  induction entries with
  | nil => simp [putIn]
  | cons head rest ih =>
    by_cases h : head.1 = place
    · simp [putIn, h]
    · rw [putIn, if_neg h, List.map_cons, List.mem_cons, ih, List.map_cons, List.mem_cons,
        or_left_comm]

/-- Something can be put at a place before texts are put at others. -/
theorem put_putTexts {texts : List (String × String)} (hplace : place ∈ t.entries.map Prod.fst)
    (hne : ∀ x ∈ texts, place ≠ base ++ [x.1]) (e : FileEntry) :
    (t.putTexts base texts).put place e = (t.put place e).putTexts base texts := by
  induction texts generalizing t with
  | nil => rfl
  | cons x rest ih =>
    obtain ⟨hx, hrest⟩ := List.forall_mem_cons.mp hne
    have hstays : place ∈ (t.put (base ++ [x.1]) (.text x.2)).entries.map Prod.fst :=
      (mem_keys_putIn _).mpr (.inr hplace)
    have hcomm : (t.put (base ++ [x.1]) (.text x.2)).put place e =
        (t.put place e).put (base ++ [x.1]) (.text x.2) :=
      congrArg (FileTree.mk t.workingFolder) (putIn_comm hx hplace _ _)
    have hmore := ih hstays hrest
    rw [hcomm] at hmore
    exact hmore

/-- Texts take the place of the texts that were put under the same names. -/
theorem putTexts_putTexts {texts old : List (String × String)}
    (hnames : old.map Prod.fst = texts.map Prod.fst) (hnodup : (texts.map Prod.fst).Nodup)
    (t : FileTree) : (t.putTexts base old).putTexts base texts = t.putTexts base texts := by
  induction texts generalizing old t with
  | nil => rw [List.map_eq_nil_iff.mp hnames, putTexts, List.foldl_nil]
  | cons x rest ih =>
    cases old with
    | nil => cases hnames
    | cons y olds =>
      obtain ⟨name, was⟩ := y
      obtain ⟨rfl, hmore⟩ := List.cons.inj hnames
      obtain ⟨hfresh, hnodup⟩ := List.nodup_cons.mp hnodup
      let place := base ++ [x.1]
      have hplace : place ∈ (t.put place (.text was)).entries.map Prod.fst :=
        (mem_keys_putIn _).mpr (.inl rfl)
      have hothers : ∀ z ∈ olds, place ≠ base ++ [z.1] := by
        intro z hz heq
        have hsame : x.1 = z.1 := by simpa [place] using heq
        rw [← hmore, hsame] at hfresh
        exact hfresh (List.mem_map_of_mem hz)
      have hput : (t.put place (.text was)).put place (.text x.2) = t.put place (.text x.2) :=
        congrArg (FileTree.mk t.workingFolder) (putIn_putIn _ _ _)
      calc (t.putTexts base ((x.1, was) :: olds)).putTexts base (x :: rest)
          = (((t.put place (.text was)).putTexts base olds).put place (.text x.2)).putTexts
              base rest := rfl
        _ = ((t.put place (.text x.2)).putTexts base olds).putTexts base rest := by
            rw [put_putTexts hplace hothers, hput]
        _ = (t.put place (.text x.2)).putTexts base rest := ih hmore hnodup _

/-! ## Folders with files -/

/-- One tree is another with the folder of a path, and texts under names in that folder. -/
structure Holds (t : FileTree) (folder : Path) (texts : List (String × String)) (u : FileTree) :
    Prop where
  workingFolder : u.workingFolder = t.workingFolder
  leads : u.locate folder = .ok (t.goalOf folder)
  free : ∀ place ∈ t.placesOn folder, t.entryAt place = none ∨ t.entryAt place = some .folder
  folders : ∀ place ∈ t.placesOn folder, u.entryAt place = some .folder
  files : ∀ x ∈ texts, u.entryAt (t.goalOf folder ++ [x.1]) = some (.text x.2)
  others : ∀ place, place ∉ t.placesOn folder →
    (∀ x ∈ texts, place ≠ t.goalOf folder ++ [x.1]) → u.entryAt place = t.entryAt place

/-- A text that takes the place of no folder leaves all that is a folder or none as it is. -/
theorem isFolder_put (hne : place ≠ []) (h : t.isFolder place = false) (other : List String) :
    (t.put place (.text content)).isFolder other = t.isFolder other := by
  by_cases hsame : other = place
  · rw [hsame, h, isFolder, entryAt_put t hne]
    rfl
  · rw [isFolder, entryAt_put_of_ne t hsame, isFolder]

/-- A name leads into the folder that is there. -/
theorem locate_child_eq {folder : Path} {name : String} (hname : IsName name)
    (hbase : t.locate folder = .ok base) (hfolder : t.entryAt base = some .folder) :
    t.locate (folder.child name) = .ok (base ++ [name]) := by
  obtain ⟨hpassed, rfl⟩ := locate_eq_ok_iff.mp hbase
  have hchild : folder.child name = ⟨folder.slashes, folder.parts ++ [name]⟩ := by
    rw [Path.child, hname.1]
    rfl
  have hgoal : t.goalOf (folder.child name) = t.goalOf folder ++ [name] := by
    rw [hchild]
    simp [goalOf, goal, startOf, Path.isAbsolute, stepFrom, hname.2]
  rw [locate_eq_ok_iff, hgoal]
  refine ⟨?_, rfl⟩
  rw [hchild]
  by_cases hparts : folder.parts = []
  · rw [hparts]
    exact List.forall_mem_nil _
  · intro q hq
    rw [passed_concat hparts] at hq
    rcases List.mem_append.mp hq with hq | hq
    · exact hpassed q hq
    · rw [List.mem_singleton.mp hq]
      exact hfolder

end FileTree

open FileTree

namespace ManifestFiles

variable {t u v : FileTree} {folder : Path} {files : ManifestFiles} {paths : List Path}
  {base : List String}

/-- The first file is written, and then the others. -/
theorem writeInto_cons_eq_ok_iff {file : String} {docs : List Json} {rest : ManifestFiles} :
    writeInto folder t ((file, docs) :: rest) = (.ok paths, u) ↔
      ∃ v more, t.write (folder.child file) (Yaml.render docs) = .ok v ∧
        writeInto folder v rest = (.ok more, u) ∧ paths = folder.child file :: more := by
  refine ⟨of_writeInto_cons, ?_⟩
  rintro ⟨v, more, hwrite, hmore, rfl⟩
  simp only [writeInto, hwrite, hmore]

/-- Files are written into a folder that is there if none of their names is that of a folder. -/
theorem writeInto_eq_ok_iff (hnames : ∀ f ∈ files, IsName f.1) (hbase : t.locate folder = .ok base)
    (hfolder : t.entryAt base = some .folder) :
    writeInto folder t files = (.ok paths, u) ↔
      paths = files.map (folder.child ·.1) ∧
      (∀ f ∈ files, t.isFolder (base ++ [f.1]) = false) ∧ u = t.putTexts base files.texts := by
  induction files generalizing t u paths with
  | nil =>
    constructor
    · intro h
      cases h
      exact ⟨rfl, List.forall_mem_nil _, rfl⟩
    · rintro ⟨rfl, -, rfl⟩
      rfl
  | cons f rest ih =>
    obtain ⟨file, docs⟩ := f
    obtain ⟨hname, hnames⟩ := List.forall_mem_cons.mp hnames
    have hlocate := locate_child_eq hname hbase hfolder
    let v := t.put (base ++ [file]) (.text (Yaml.render docs))
    by_cases hfile : t.isFolder (base ++ [file]) = false
    · have hwrite : t.write (folder.child file) (Yaml.render docs) = .ok v :=
        FileTree.write_eq_ok_iff.mpr ⟨_, hlocate, hfile, rfl⟩
      have hfolder' : v.entryAt base = some .folder := by
        rw [← hfolder]
        exact entryAt_put_of_ne t (by simp) _
      have hbase' : v.locate folder = .ok base := (keepsFolders_put hfile).locate hbase
      have hsame : ∀ other, v.isFolder other = t.isFolder other := isFolder_put (by simp) hfile
      rw [writeInto_cons_eq_ok_iff]
      simp only [hwrite, Except.ok.injEq, exists_and_left, exists_eq_left', ih hnames hbase' hfolder',
        hsame, List.forall_mem_cons, hfile, true_and, List.map_cons]
      constructor
      · rintro ⟨more, ⟨rfl, hrest, rfl⟩, rfl⟩
        exact ⟨rfl, hrest, rfl⟩
      · rintro ⟨rfl, hrest, rfl⟩
        exact ⟨_, ⟨rfl, hrest, rfl⟩, rfl⟩
    · rw [writeInto_cons_eq_ok_iff]
      constructor
      · rintro ⟨v, more, hwrite, -⟩
        obtain ⟨place, hplace, hfree, -⟩ := FileTree.write_eq_ok_iff.mp hwrite
        obtain rfl := Except.ok.inj (hlocate.symm.trans hplace)
        exact absurd hfree hfile
      · rintro ⟨-, hfree, -⟩
        exact absurd (hfree _ List.mem_cons_self) hfile

/-- Files are written if the folder can be made and none of their names is that of a folder in
it. -/
theorem write_files_eq_ok_iff (hnames : ∀ f ∈ files, IsName f.1) :
    files.write t folder = (.ok paths, u) ↔
      ∃ made, t.ensureFolder folder = (none, made) ∧ paths = files.map (folder.child ·.1) ∧
        (∀ f ∈ files, made.isFolder (t.goalOf folder ++ [f.1]) = false) ∧
        u = made.putTexts (t.goalOf folder) files.texts := by
  unfold write
  match hmade : t.ensureFolder folder with
  | (some fault, made) => simp
  | (none, made) =>
    have hpaved := paved_of_ensureFolder hmade
    simp only [writeInto_eq_ok_iff hnames hpaved.locate hpaved.entryAt_goalOf, Prod.mk.injEq,
      true_and, exists_eq_left']

/-- What is written is there, and all else is as it was. -/
theorem holds_of_write (hnames : ∀ f ∈ files, IsName f.1) (hnodup : (files.map Prod.fst).Nodup)
    (h : files.write t folder = (.ok paths, u)) : t.Holds folder files.texts u := by
  obtain ⟨made, hmade, -, hfree, rfl⟩ := (write_files_eq_ok_iff hnames).mp h
  have hpaved := paved_of_ensureFolder hmade
  obtain ⟨-, hkeeps, -⟩ := writeInto_eq_ok hnames hpaved.locate
    ((writeInto_eq_ok_iff hnames hpaved.locate hpaved.entryAt_goalOf).mpr ⟨rfl, hfree, rfl⟩)
  refine ⟨?_, ?_, hpaved.free, ?_, ?_, ?_⟩
  · exact hkeeps.workingFolder.trans hpaved.workingFolder
  · exact hkeeps.locate hpaved.locate
  · exact fun place hplace => hkeeps.folders place (hpaved.made place hplace)
  · intro x hx
    rw [← texts_names] at hnodup
    exact entryAt_putTexts hnodup hx made
  · intro place hplace hother
    rw [entryAt_putTexts_of_ne hother]
    exact hpaved.kept place hplace

/-- Files that are written over files of the same names leave what they leave if they are written
alone. -/
theorem write_again {old : ManifestFiles} {oldPaths : List Path}
    (hsame : old.map Prod.fst = files.map Prod.fst) (hnodup : (files.map Prod.fst).Nodup)
    (hnames : ∀ f ∈ files, IsName f.1)
    (first : old.write t folder = (.ok oldPaths, v))
    (again : files.write v folder = (.ok paths, u)) : files.write t folder = (.ok paths, u) := by
  have hold : ∀ f ∈ old, IsName f.1 := by
    intro f hf
    obtain ⟨g, hg, hname⟩ := List.mem_map.mp (hsame ▸ List.mem_map_of_mem hf)
    exact hname ▸ hnames g hg
  have hholds := holds_of_write hold (hsame ▸ hnodup) first
  obtain ⟨made, hmade, -, hfree, rfl⟩ := (write_files_eq_ok_iff hold).mp first
  obtain ⟨made', hmade', rfl, -, rfl⟩ := (write_files_eq_ok_iff hnames).mp again
  -- The folder is there already when the files are written over the others.
  have hthere : made' = made.putTexts (t.goalOf folder) old.texts := by
    have hfolder := hholds.folders (t.goalOf folder) (List.mem_append_right _ (by simp))
    rw [ensureFolder_of_isFolder hholds.leads hfolder] at hmade'
    exact (Prod.mk.inj hmade').2.symm
  have hgoal := (locate_eq_ok_iff.mp hholds.leads).2
  refine (write_files_eq_ok_iff hnames).mpr ⟨made, hmade, rfl, ?_, ?_⟩
  · intro f hf
    have hmem : f.1 ∈ old.map Prod.fst := hsame ▸ List.mem_map_of_mem hf
    obtain ⟨g, hg, hname⟩ := List.mem_map.mp hmem
    rw [← hname]
    exact hfree g hg
  · rw [hthere, ← hgoal]
    refine putTexts_putTexts ?_ ?_ made
    · rw [texts_names, texts_names, hsame]
    · rwa [texts_names]

end ManifestFiles

/-! ## Runs -/

/-- Writes manifests into one folder, one result after the other: the answers, and the tree in the
end. -/
def writeInTurn (folder : Path) : FileTree → List Produced →
    List (Except FileFault (List Path)) × FileTree
  | t, [] => ([], t)
  | t, p :: rest =>
    let (answer, v) := p.manifests.write t folder
    let (answers, u) := writeInTurn folder v rest
    (answer :: answers, u)

theorem nodup_manifestFiles : manifestFiles.Nodup := by decide

theorem Produced.paths_of_write {p : Produced} {t u : FileTree} {folder : Path} {paths : List Path}
    (h : p.manifests.write t folder = (.ok paths, u)) : paths = manifestFiles.map folder.child := by
  obtain ⟨-, -, hpaths, -⟩ := (ManifestFiles.write_files_eq_ok_iff (manifests_isName p)).mp h
  exact hpaths

/-- Results that are written into one folder, the last of them alone would have been. -/
theorem write_of_writeInTurn {t : FileTree} {folder : Path} {earlier : List Produced}
    {last : Produced}
    (written : ∀ answer ∈ (writeInTurn folder t (earlier ++ [last])).1,
      ∃ paths, answer = .ok paths) :
    last.manifests.write t folder =
      (.ok (manifestFiles.map folder.child), (writeInTurn folder t (earlier ++ [last])).2) ∧
    (writeInTurn folder t (earlier ++ [last])).1 =
      List.replicate (earlier.length + 1) (.ok (manifestFiles.map folder.child)) := by
  induction earlier generalizing t with
  | nil =>
    match hwrite : last.manifests.write t folder with
    | (answer, u) =>
      simp only [List.nil_append, writeInTurn, hwrite, List.mem_singleton, forall_eq] at written ⊢
      obtain ⟨paths, rfl⟩ := written
      rw [Produced.paths_of_write hwrite]
      exact ⟨rfl, rfl⟩
  | cons p rest ih =>
    match hwrite : p.manifests.write t folder with
    | (answer, v) =>
      simp only [List.cons_append, writeInTurn, hwrite, List.forall_mem_cons] at written ⊢
      obtain ⟨⟨paths, rfl⟩, hmore⟩ := written
      obtain ⟨hlast, hanswers⟩ := ih hmore
      have hsame : p.manifests.map Prod.fst = last.manifests.map Prod.fst := rfl
      refine ⟨?_, ?_⟩
      · exact ManifestFiles.write_again hsame nodup_manifestFiles (manifests_isName last) hwrite
          hlast
      · rw [hanswers, Produced.paths_of_write hwrite]
        rfl

/-- When results are written into one folder, one after the other, each call gives the paths of the
files in their order. In the end the tree is what writing the last result alone leaves: the first
tree with the folders on the path, where nothing or folders were, and in the last of them the files,
which hold the manifests of the last result and are empty where it has none. Every other place is as
it was. -/
theorem last_writing_remains (t : FileTree) (folder : Path) (earlier : List Produced)
    (last : Produced)
    (written : ∀ answer ∈ (writeInTurn folder t (earlier ++ [last])).1,
      ∃ paths, answer = .ok paths) :
    let (answers, u) := writeInTurn folder t (earlier ++ [last])
    answers = List.replicate (earlier.length + 1) (.ok (manifestFiles.map folder.child)) ∧
      last.manifests.write t folder = (.ok (manifestFiles.map folder.child), u) ∧
      t.Holds folder (last.manifests.map fun f => (f.1, Yaml.render f.2)) u := by
  obtain ⟨hlast, hanswers⟩ := write_of_writeInTurn written
  refine ⟨hanswers, hlast, ?_⟩
  exact ManifestFiles.holds_of_write (manifests_isName last) nodup_manifestFiles hlast

/-- A computer with a role binding of long ago, and a note. -/
def staleTree : FileTree :=
  ((FileTree.empty ["work"]).add ⟨0, ["out", "rolebindings.yaml"]⟩ (.text "kind: RoleBinding\n")).add
    ⟨0, ["note.txt"]⟩ (.text "keep")

/-- A grant is written and then revoked. Of it and of the role binding nothing is left. -/
theorem accountAndGrant_revoked :
    (∀ answer ∈ (writeInTurn ⟨0, ["out"]⟩ staleTree ([accountAndGrant] ++ [.none])).1,
        ∃ paths, answer = .ok paths) ∧
      let (answers, u) := writeInTurn ⟨0, ["out"]⟩ staleTree ([accountAndGrant] ++ [.none])
      answers = List.replicate 2 (.ok (manifestFiles.map (Path.child ⟨0, ["out"]⟩))) ∧
        Produced.none.manifests.write staleTree ⟨0, ["out"]⟩ =
          (.ok (manifestFiles.map (Path.child ⟨0, ["out"]⟩)), u) ∧
        staleTree.Holds ⟨0, ["out"]⟩ [("serviceaccounts.yaml", ""), ("rolebindings.yaml", ""),
          ("clusterrolebindings.yaml", "")] u := by
  have hanswers : (writeInTurn ⟨0, ["out"]⟩ staleTree ([accountAndGrant] ++ [.none])).1 =
      List.replicate 2 (.ok (manifestFiles.map (Path.child ⟨0, ["out"]⟩))) := by rfl
  have written : ∀ answer ∈
      (writeInTurn ⟨0, ["out"]⟩ staleTree ([accountAndGrant] ++ [.none])).1,
      ∃ paths, answer = .ok paths := by
    rw [hanswers]
    exact fun answer hanswer => ⟨_, List.eq_of_mem_replicate hanswer⟩
  exact ⟨written, last_writing_remains staleTree ⟨0, ["out"]⟩ [accountAndGrant] .none written⟩

end RoleGrants
