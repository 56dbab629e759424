import RoleGrants.Proofs.CommandLine.Safety
import RoleGrants.Proofs.Definition.Loading

/-!
# Runs on files that cannot be loaded

The exit code for invalid input tells scripts that a file has to be mended.  `load_escapes_iff` says
which files of those that can be opened end a run with that code, and which end it as an error that
nobody has foreseen would.  It takes the loader of YAML texts as it behaves: a text may have a value,
it may be called malformed, or the loader may fail in any other way.
-/

namespace RoleGrants.CommandLine

open RoleGrants.Text RoleGrants.Yaml

/-- A run comes to a file that cannot be loaded: that of the definition or, once that is there, that
of the labels of namespaces. -/
inductive Meets (env : Environment) (r : Request) : Path → LoadError → Prop
  | definition {e : LoadError} (proceeds : env.Proceeds)
      (load : Definition.load env.loader env.filesThen r.definition = .error e) :
      Meets env r r.definition e
  | labels {d : Definition} {path : Path} {e : LoadError} (proceeds : env.Proceeds)
      (load : Definition.load env.loader env.filesThen r.definition = .ok d)
      (given : r.namespaceLabels = some path)
      (labels : LabelTable.load env.loader env.filesThen path = .error e) : Meets env r path e

variable {env : Environment} {r : Request} {p : Path} {e : LoadError}

/-- A run ends with the refusal of the first file that it cannot load. -/
theorem Meets.exit_eq (h : Meets env r p e) (settings : LogSettings) :
    (runResolve env settings r).exit = (loadRefusal e).1 := by
  cases h with
  | definition proceeds load =>
    rw [runResolve_of_proceeds proceeds, resolveWith, load]
    rfl
  | labels proceeds load given labels =>
    rw [runResolve_of_proceeds proceeds, resolveWith, load]
    simp only [resolveLoaded, resolveFor, given, labels]
    rfl

/-- An error of a file that can be opened ends a run as invalid input if it is about the document,
and else as an unforeseen error. -/
theorem Meets.exit_cases {content : String ⊕ List UInt8} (h : Meets env r p e)
    (readable : env.filesThen.read p = .ok content) (settings : LogSettings) :
    (runResolve env settings r).exit.number = 5 ∧ e.OfDocument p ∨
      (runResolve env settings r).exit.number = 1 ∧ ¬ e.OfDocument p := by
  rw [h.exit_eq settings]
  by_cases hdocument : e.OfDocument p
  · obtain ⟨problem, rfl⟩ := hdocument
    exact .inl ⟨rfl, problem, rfl⟩
  · refine .inr ⟨?_, hdocument⟩
    have hescapes : LabelTable.Escapes env.loader env.filesThen p e := by
      cases h with
      | definition _ load => exact .file ((Definition.escapes_iff readable).mp ⟨load, hdocument⟩)
      | labels _ _ _ labels => exact (LabelTable.escapes_iff readable).mp ⟨labels, hdocument⟩
    cases hescapes with
    | file hfile =>
      cases hfile with
      | undecodable => rfl
      | scalar => rfl
      | abandoned => rfl
    | overlong => rfl

/-- Whatever the loader of YAML texts does, loading a definition or a table of labels from a file
that can be opened gives a value, or fails with an error about the document and the path of the
file, or with one of the errors that escape: which these are is said exactly.  A run that meets the
file ends with the exit code for invalid input in the first case of these two, and with that for
unforeseen errors in the second. -/
theorem load_escapes_iff {loader : Loader} {t : FileTree} {p : Path}
    {content : String ⊕ List UInt8} (readable : t.read p = .ok content) :
    (∀ e, Definition.load loader t p = .error e ∧ ¬ e.OfDocument p ↔ Escapes loader t p e) ∧
    (∀ e, LabelTable.load loader t p = .error e ∧ ¬ e.OfDocument p ↔
      LabelTable.Escapes loader t p e) ∧
    ∀ env arguments settings r e, Asked.ofArguments env.files arguments = .resolve settings r →
      env.loader = loader → env.filesThen = t → Meets env r p e →
        (run env arguments).exit.number = 5 ∧ e.OfDocument p ∨
          (run env arguments).exit.number = 1 ∧ ¬ e.OfDocument p := by
  refine ⟨fun e => Definition.escapes_iff readable, fun e => LabelTable.escapes_iff readable, ?_⟩
  rintro env arguments settings r e asked rfl rfl meets
  have hrun : run env arguments = runResolve env settings r := by
    unfold run
    rw [asked]
  rw [hrun]
  exact meets.exit_cases readable settings

/-- A computer with a file where a definition should be. -/
def computerWith (entry : FileEntry) : Environment where
  loader := Yaml.load
  files := (FileTree.empty ["work"]).add ⟨0, ["d.yaml"]⟩ entry
  home := ⟨1, ["home"]⟩
  cluster := ⟨[], [], []⟩
  version := none
  time := ""
  disturbance := none

/-- The request to resolve it. -/
def plainRequest : Request where
  definition := ⟨1, ["work", "d.yaml"]⟩
  output := none
  dryRun := false
  namespaceLabels := none
  kubeconfig := none
  context := none

/-- A file with a date in a month that there is not. -/
theorem misdated_escapes :
    (computerWith (.text "2024-13-01")).filesThen.read plainRequest.definition =
        .ok (.inl "2024-13-01") ∧
      Escapes Yaml.load (computerWith (.text "2024-13-01")).filesThen plainRequest.definition
        (.scalar (.calendar .month)) ∧
      (run (computerWith (.text "2024-13-01")) ["resolve", "-d", "d.yaml"]).exit.number = 1 := by
  have readable : (computerWith (.text "2024-13-01")).filesThen.read plainRequest.definition =
      .ok (.inl "2024-13-01") := rfl
  have load : Definition.load Yaml.load (computerWith (.text "2024-13-01")).filesThen
      plainRequest.definition = .error (.scalar (.calendar .month)) := by rfl
  have asked : Asked.ofArguments (computerWith (.text "2024-13-01")).files
      ["resolve", "-d", "d.yaml"] = .resolve ⟨.warning, .console⟩ plainRequest := by decide +kernel
  have elsewhere : ¬ (LoadError.scalar (.calendar .month)).OfDocument plainRequest.definition := by
    rintro ⟨problem, heq⟩
    cases heq
  obtain ⟨definitions, -, runs⟩ := load_escapes_iff readable
  refine ⟨readable, (definitions _).mp ⟨load, elsewhere⟩, ?_⟩
  exact ((runs _ _ _ _ _ asked rfl rfl (.definition trivial load)).resolve_left
    fun foreseen => elsewhere foreseen.2).1

/-- A file with a byte that begins no character fails with an error that is not about a document,
and so does the run. -/
theorem senseless_byte_escapes :
    (computerWith (.binary [0xFF])).filesThen.read plainRequest.definition = .ok (.inr [0xFF]) ∧
      (∃ e, Definition.load Yaml.load (computerWith (.binary [0xFF])).filesThen
        plainRequest.definition = .error e ∧ ¬ e.OfDocument plainRequest.definition) ∧
      (∃ e, LabelTable.load Yaml.load (computerWith (.binary [0xFF])).filesThen
        plainRequest.definition = .error e ∧ ¬ e.OfDocument plainRequest.definition) ∧
      (run (computerWith (.binary [0xFF])) ["resolve", "-d", "d.yaml"]).exit.number = 1 := by
  have elsewhere : ¬ (LoadError.undecodable ⟨0, 0xFF, 1, .invalidStart⟩).OfDocument
      plainRequest.definition := by
    rintro ⟨problem, heq⟩
    cases heq
  exact ⟨rfl, ⟨_, rfl, elsewhere⟩, ⟨_, rfl, elsewhere⟩, by decide +kernel⟩

end RoleGrants.CommandLine
