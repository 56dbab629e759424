import RoleGrants.Files.Tree

/-!
# Making folders

A path leads through places, one for each of its names, to the place it is the path of. When the
folder of a path is made, there are folders at all of these places afterwards. They were there
before, or nothing was; all other places are as they were (`paved_of_ensureFolder`).

A folder that is there already is left alone with everything else (`ensureFolder_of_isFolder`).
-/

namespace RoleGrants

namespace FileTree

variable {t u v : FileTree} {p : Path} {place start : List String} {names : List String}
  {places more : List (List String)}

/-! ## The places of a path -/

/-- The place that a name leads to from a folder. -/
def stepFrom (start : List String) (name : String) : List String :=
  if name = ".." then start.dropLast else start ++ [name]

/-- The place that names lead to from a folder. -/
def goal (start : List String) (names : List String) : List String := names.foldl stepFrom start

/-- The places that names lead through from a folder before they come to their goal. -/
def passed (start : List String) : List String → List (List String)
  | name :: next :: rest => stepFrom start name :: passed (stepFrom start name) (next :: rest)
  | _ => []

/-- Where a path begins: at the root or in the working folder. -/
def startOf (t : FileTree) (p : Path) : List String :=
  if p.isAbsolute then [] else t.workingFolder

/-- The place that a path leads to. -/
def goalOf (t : FileTree) (p : Path) : List String := goal (t.startOf p) p.parts

/-- The places that a path leads through, and the one it leads to. -/
def placesOn (t : FileTree) (p : Path) : List (List String) :=
  passed (t.startOf p) p.parts ++ [t.goalOf p]

/-- The goal of names is the last place that names behind them pass. -/
theorem passed_concat (hnames : names ≠ []) (start : List String) (name : String) :
    passed start (names ++ [name]) = passed start names ++ [goal start names] := by
  induction names generalizing start with
  | nil => exact absurd rfl hnames
  | cons first rest ih =>
    cases rest with
    | nil => rfl
    | cons next rest =>
      have hrest := ih (by simp) (stepFrom start first)
      simpa [passed, goal] using hrest

/-- Where there is a folder, the names behind it are followed. -/
theorem follow_of_folder {name next : String}
    (h : t.entryAt (stepFrom start name) = some .folder) :
    t.follow start (name :: next :: names) = t.follow (stepFrom start name) (next :: names) := by
  unfold stepFrom at h ⊢
  rw [follow, if_neg (by simp)]
  simp only [h]

/-- Where there is none, they are not. -/
theorem follow_of_not_folder {name next : String}
    (h : t.entryAt (stepFrom start name) ≠ some .folder) :
    ∃ problem, t.follow start (name :: next :: names) = .error problem := by
  unfold stepFrom at h
  rw [follow, if_neg (by simp)]
  split
  next hfolder => exact absurd hfolder h
  next => exact ⟨_, rfl⟩
  next => exact ⟨_, rfl⟩

/-- Names can be followed if they pass folders only. -/
theorem follow_eq_ok_iff :
    t.follow start names = .ok place ↔
      (∀ q ∈ passed start names, t.entryAt q = some .folder) ∧ place = goal start names := by
  induction names generalizing start with
  | nil => simp [follow, passed, goal, eq_comm]
  | cons name rest ih =>
    cases rest with
    | nil => simp [follow, passed, goal, stepFrom, eq_comm]
    | cons next rest =>
      rw [passed, List.forall_mem_cons, and_assoc,
        show goal start (name :: next :: rest) = goal (stepFrom start name) (next :: rest) from rfl,
        ← ih]
      by_cases hfolder : t.entryAt (stepFrom start name) = some .folder
      · rw [follow_of_folder hfolder, and_iff_right hfolder]
      · obtain ⟨problem, hproblem⟩ := follow_of_not_folder hfolder
        rw [hproblem]
        exact iff_of_false (by simp) fun h => hfolder h.1

theorem locate_eq_ok_iff :
    t.locate p = .ok place ↔
      (∀ q ∈ passed (t.startOf p) p.parts, t.entryAt q = some .folder) ∧ place = t.goalOf p :=
  follow_eq_ok_iff

/-- A path of one name leads somewhere. -/
theorem locate_of_parts (h : p.parts.length ≤ 1) : t.locate p = .ok (t.goalOf p) := by
  rw [locate_eq_ok_iff]
  refine ⟨?_, rfl⟩
  match hparts : p.parts with
  | [] => exact List.forall_mem_nil _
  | [name] => exact List.forall_mem_nil _
  | name :: next :: rest => simp [hparts] at h

/-! ## Paving a way -/

/-- One tree is another with folders at some places where nothing was. -/
structure Paved (t : FileTree) (places : List (List String)) (u : FileTree) : Prop where
  workingFolder : u.workingFolder = t.workingFolder
  free : ∀ place ∈ places, t.entryAt place = none ∨ t.entryAt place = some .folder
  made : ∀ place ∈ places, u.entryAt place = some .folder
  kept : ∀ place, place ∉ places → u.entryAt place = t.entryAt place

/-- Folders that are there need not be made. -/
theorem paved_of_folders (h : ∀ place ∈ places, t.entryAt place = some .folder) :
    t.Paved places t where
  workingFolder := rfl
  free place hplace := .inr (h place hplace)
  made := h
  kept _ _ := rfl

/-- A folder is made in the last one of some places. -/
theorem paved_put (h : ∀ q ∈ places, t.entryAt q = some .folder) (hplace : t.entryAt place = none) :
    t.Paved (places ++ [place]) (t.put place .folder) := by
  have hne : place ≠ [] := by
    rintro rfl
    cases hplace
  refine ⟨rfl, ?_, ?_, ?_⟩
  · intro q hq
    rcases List.mem_append.mp hq with hq | hq
    · exact .inr (h q hq)
    · exact .inl (List.mem_singleton.mp hq ▸ hplace)
  · intro q hq
    by_cases hsame : q = place
    · rw [hsame, entryAt_put t hne]
    · rw [entryAt_put_of_ne t hsame]
      exact h q ((List.mem_append.mp hq).resolve_right (mt List.mem_singleton.mp hsame))
  · intro q hq
    exact entryAt_put_of_ne t (fun hsame => hq (by simp [hsame])) _

namespace Paved

/-- A way is paved after the beginning of it. -/
theorem trans (h : t.Paved places v) (h' : v.Paved (places ++ more) u) :
    t.Paved (places ++ more) u := by
  refine ⟨h'.workingFolder.trans h.workingFolder, fun q hq => ?_, h'.made, fun q hq => ?_⟩
  · by_cases hfirst : q ∈ places
    · exact h.free q hfirst
    · rw [← h.kept q hfirst]
      exact h'.free q hq
  · rw [h'.kept q hq]
    exact h.kept q fun hfirst => hq (List.mem_append_left _ hfirst)

theorem startOf_eq (h : t.Paved places u) (p : Path) : u.startOf p = t.startOf p := by
  rw [startOf, startOf, h.workingFolder]

theorem goalOf_eq (h : t.Paved places u) (p : Path) : u.goalOf p = t.goalOf p := by
  rw [goalOf, goalOf, h.startOf_eq]

theorem placesOn_eq (h : t.Paved places u) (p : Path) : u.placesOn p = t.placesOn p := by
  rw [placesOn, placesOn, h.startOf_eq, h.goalOf_eq]

/-- A path that is paved leads to its goal, and a folder is there. -/
theorem locate (h : t.Paved (t.placesOn p) u) : u.locate p = .ok (t.goalOf p) := by
  rw [locate_eq_ok_iff, h.startOf_eq, h.goalOf_eq]
  exact ⟨fun q hq => h.made q (List.mem_append_left _ hq), rfl⟩

theorem entryAt_goalOf (h : t.Paved (t.placesOn p) u) : u.entryAt (t.goalOf p) = some .folder :=
  h.made _ (List.mem_append_right _ (List.mem_singleton_self _))

end Paved

/-! ## Making the folder of a path -/

/-- A folder is made or kept. -/
theorem paved_of_makeOrKeepFolder (h : t.makeOrKeepFolder p = .ok u) :
    t.Paved (t.placesOn p) u := by
  unfold makeOrKeepFolder makeFolder at h
  cases hlocate : t.locate p with
  | error problem => simp [hlocate, fault, hasFolder] at h
  | ok place =>
    obtain ⟨hpassed, rfl⟩ := locate_eq_ok_iff.mp hlocate
    cases hentry : t.entryAt (t.goalOf p) with
    | none =>
      simp only [hlocate, hentry, Except.ok.injEq] at h
      rw [← h]
      exact paved_put hpassed hentry
    | some entry =>
      simp only [hlocate, hentry, fault, hasFolder, isFolder] at h
      split at h
      next hfolder =>
        obtain rfl := Except.ok.inj h
        refine paved_of_folders fun q hq => ?_
        rcases List.mem_append.mp hq with hq | hq
        · exact hpassed q hq
        · rw [List.mem_singleton.mp hq, hentry]
          simpa using hfolder
      next => cases h

/-- A folder cannot be made because those that it lies in are missing only if its path has more than
one name. -/
theorem two_le_of_notFound {f : FileFault} (h : t.makeOrKeepFolder p = .error f)
    (hproblem : f.problem = .notFound) : 2 ≤ p.parts.length := by
  refine Nat.le_of_not_lt fun hshort => ?_
  have hlocate : t.locate p = .ok (t.goalOf p) := locate_of_parts (Nat.le_of_lt_succ hshort)
  unfold makeOrKeepFolder makeFolder at h
  rw [hlocate] at h
  cases hentry : t.entryAt (t.goalOf p) with
  | none => simp [hentry] at h
  | some entry =>
    simp only [hentry, fault] at h
    split at h
    next => cases h
    next =>
      rw [← Except.error.inj h] at hproblem
      cases hproblem

/-- The places of a path are those of its parent and its goal. -/
theorem placesOn_eq_parent (h : 2 ≤ p.parts.length) :
    t.placesOn p = t.placesOn p.parent ++ [t.goalOf p] := by
  have hne : p.parts ≠ [] := by
    rintro hnil
    simp [hnil] at h
  have hfront : p.parts.dropLast ≠ [] := by
    rw [← List.length_pos_iff, List.length_dropLast]
    omega
  have hparts : p.parts.dropLast ++ [p.parts.getLast hne] = p.parts :=
    List.dropLast_concat_getLast hne
  have hpassed := passed_concat hfront (t.startOf p) (p.parts.getLast hne)
  rw [hparts] at hpassed
  rw [placesOn, hpassed]
  rfl

theorem paved_of_makeFolders {depth : Nat} (h : t.makeFolders depth p = (none, u)) :
    t.Paved (t.placesOn p) u := by
  induction depth generalizing p u with
  | zero =>
    unfold makeFolders at h
    cases hfirst : t.makeOrKeepFolder p with
    | ok made =>
      simp only [hfirst, Prod.mk.injEq, true_and] at h
      exact h ▸ paved_of_makeOrKeepFolder hfirst
    | error f => simp [hfirst] at h
  | succ depth ih =>
    unfold makeFolders at h
    cases hfirst : t.makeOrKeepFolder p with
    | ok made =>
      simp only [hfirst, Prod.mk.injEq, true_and] at h
      exact h ▸ paved_of_makeOrKeepFolder hfirst
    | error f =>
      simp only [hfirst] at h
      split at h
      next hproblem =>
        -- The folders that it lies in are made first, and then the folder.
        match hparent : t.makeFolders depth p.parent with
        | (some f, made) => simp [hparent] at h
        | (none, made) =>
          simp only [hparent] at h
          have hfront := ih hparent
          cases hsecond : made.makeOrKeepFolder p with
          | error f => simp [hsecond] at h
          | ok whole =>
            simp only [hsecond, Prod.mk.injEq, true_and] at h
            have hwhole := paved_of_makeOrKeepFolder hsecond
            rw [hfront.placesOn_eq, placesOn_eq_parent (two_le_of_notFound hfirst hproblem)]
              at hwhole
            rw [placesOn_eq_parent (two_le_of_notFound hfirst hproblem), ← h]
            exact hfront.trans hwhole
      next => cases h

/-- When the folder of a path is made, there are folders at all places of the path, where nothing or
a folder was before. -/
theorem paved_of_ensureFolder (h : t.ensureFolder p = (none, u)) : t.Paved (t.placesOn p) u :=
  paved_of_makeFolders h

/-- A folder that is there is not made again. -/
theorem ensureFolder_of_isFolder (hlocate : t.locate p = .ok place)
    (hfolder : t.entryAt place = some .folder) : t.ensureFolder p = (none, t) := by
  have hkeep : t.makeOrKeepFolder p = .ok t := by
    simp [makeOrKeepFolder, makeFolder, hasFolder, isFolder, fault, hlocate, hfolder]
  unfold ensureFolder makeFolders
  rw [hkeep]

end FileTree

end RoleGrants
