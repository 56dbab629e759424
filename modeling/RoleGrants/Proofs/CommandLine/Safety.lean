import RoleGrants.CommandLine.Run

/-!
# What a run may leave behind

The output of a run is piped into files and the files it writes are applied, so both have to stay
clean when anything goes wrong.  `run_safe` says that a run whose input or whose manifests are
refused ends with the exit code for it, prints nothing and leaves all files as they are, that a dry
run does so however it ends, and that what is printed is always a whole resolution with manifests
that are in order.

A run goes through stages, each of which refuses or hands on, and only the last one touches the
output or the files: `leavesNothing_or_delivers`.  `Stops` has one rule for each thing that is
refused with an exit code of its own.
-/

namespace RoleGrants.CommandLine

/-! ## What a run is given -/

/-- The files that are there when the definition is about to be read. -/
def Environment.filesThen (env : Environment) : FileTree :=
  match env.disturbance with
  | some (.vanishes place) => env.files.remove place
  | _ => env.files

/-- Nothing ends the run before the definition is read. -/
def Environment.Proceeds (env : Environment) : Prop :=
  match env.disturbance with
  | none | some (.vanishes _) => True
  | some .interrupted | some (.fails _) => False

/-- The definition of a request is loaded, and resolving it gives a result. -/
def Resolution (env : Environment) (r : Request) (result : Except ResolutionError Produced) : Prop :=
  env.Proceeds ∧ ∃ d resolved, Definition.load env.loader env.filesThen r.definition = .ok d ∧
    resolveFor env env.filesThen r d = .ok resolved ∧ resolved.run.result = result

/-- What is wrong with the input or the manifests of a run, with the number of the exit code for
it. -/
inductive Stops (env : Environment) (r : Request) : Nat → Prop
  | definitionFile {source : String} {problem : LoadProblem} (proceeds : env.Proceeds)
      (load : Definition.load env.loader env.filesThen r.definition =
        .error (.document source problem)) :
      Stops env r 5
  | labelsFile {d : Definition} {path : Path} {source : String} {problem : LoadProblem}
      (proceeds : env.Proceeds)
      (load : Definition.load env.loader env.filesThen r.definition = .ok d)
      (given : r.namespaceLabels = some path)
      (labels : LabelTable.load env.loader env.filesThen path = .error (.document source problem)) :
      Stops env r 5
  | definition {name binding : String} {problem : BindingProblem}
      (resolution : Resolution env r (.error (.binding name binding problem))) : Stops env r 5
  | lookup {selector reason : String} {cause : Option String}
      (resolution : Resolution env r (.error (.lookup selector reason cause))) : Stops env r 8
  | manifests {p : Produced} {messages : List String} (resolution : Resolution env r (.ok p))
      (check : Manifest.checkAll p.manifests = .ok messages) (invalid : messages ≠ []) :
      Stops env r 5

/-! ## How runs end -/

/-- A run printed nothing and left the files as they were. -/
structure Outcome.LeavesNothing (o : Outcome) (files : FileTree) : Prop where
  output : o.output = ""
  files : o.files = files

theorem leavesNothing_refuse (files : FileTree) (calls : List ClusterCall) (said : String)
    (refusal : Refusal) : (refuse files calls said refusal).LeavesNothing files := ⟨rfl, rfl⟩

/-- A run that is not ended beforehand goes on with the files that are there then. -/
theorem runResolve_of_proceeds {env : Environment} (proceeds : env.Proceeds)
    (settings : LogSettings) (r : Request) :
    runResolve env settings r = resolveWith env env.filesThen settings r := by
  unfold Environment.Proceeds at proceeds
  unfold Environment.filesThen runResolve
  cases h : env.disturbance with
  | none => rfl
  | some disturbance =>
      cases disturbance with
      | vanishes place => rfl
      | interrupted | fails f => simp [h] at proceeds

/-- A run that is ended beforehand leaves nothing behind. -/
theorem leavesNothing_of_not_proceeds {env : Environment} (ended : ¬ env.Proceeds)
    (settings : LogSettings) (r : Request) :
    (runResolve env settings r).LeavesNothing env.filesThen := by
  unfold Environment.Proceeds at ended
  unfold Environment.filesThen runResolve
  cases h : env.disturbance with
  | none => simp [h] at ended
  | some disturbance =>
      cases disturbance with
      | vanishes place => simp [h] at ended
      | interrupted | fails f => exact ⟨rfl, rfl⟩

/-! ## Delivering -/

section

variable (files : FileTree) (calls : List ClusterCall) (said : String) {r : Request} (p : Produced)

theorem deliver_dryRun (dry : r.dryRun = true) :
    (deliver files calls said r p).LeavesNothing files := by
  unfold deliver
  rw [if_pos dry]
  exact ⟨rfl, rfl⟩

theorem deliver_print (wet : r.dryRun = false) (unnamed : r.output = none) :
    deliver files calls said r p = ⟨.success, p.render, said, files, calls⟩ := by
  unfold deliver
  simp [wet, unnamed]

/-- What is written to a folder is not printed. -/
theorem deliver_write {folder : Path} (wet : r.dryRun = false) (named : r.output = some folder) :
    (deliver files calls said r p).output = "" := by
  unfold deliver
  simp only [wet, named, Bool.false_eq_true, if_false]
  split <;> rfl

end

/-! ## Refusals -/

/-- Manifests are in order exactly when the check of all of them finds nothing. -/
theorem manifestRefusal_eq_none_iff (p : Produced) :
    manifestRefusal p = none ↔ Manifest.checkAll p.manifests = .ok [] := by
  unfold manifestRefusal
  rcases Manifest.checkAll p.manifests with fault | problems
  · simp
  · cases problems <;> simp

/-- Messages on the manifests refuse them with the code for invalid input. -/
theorem manifestRefusal_of_messages {p : Produced} {messages : List String}
    (check : Manifest.checkAll p.manifests = .ok messages) (invalid : messages ≠ []) :
    ∃ said, manifestRefusal p = some (.validationError, said) := by
  unfold manifestRefusal
  rw [check]
  cases messages with
  | nil => exact absurd rfl invalid
  | cons message more => exact ⟨_, rfl⟩

/-! ## From a resolution to the end of its run -/

section

variable {env : Environment} {r : Request}

theorem Resolution.ends_of_error {e : ResolutionError} (h : Resolution env r (.error e))
    (settings : LogSettings) :
    (runResolve env settings r).exit = (resolutionRefusal e).1 ∧
      (runResolve env settings r).LeavesNothing env.filesThen := by
  obtain ⟨proceeds, d, resolved, load, prepare, result⟩ := h
  rw [runResolve_of_proceeds proceeds, resolveWith, load]
  simp only [resolveLoaded, prepare, result]
  exact ⟨rfl, leavesNothing_refuse _ _ _ _⟩

theorem Resolution.ends_of_refusal {p : Produced} (h : Resolution env r (.ok p))
    {refusal : Refusal} (check : manifestRefusal p = some refusal) (settings : LogSettings) :
    (runResolve env settings r).exit = refusal.1 ∧
      (runResolve env settings r).LeavesNothing env.filesThen := by
  obtain ⟨proceeds, d, resolved, load, prepare, result⟩ := h
  rw [runResolve_of_proceeds proceeds, resolveWith, load]
  simp only [resolveLoaded, prepare, result, check]
  exact ⟨rfl, leavesNothing_refuse _ _ _ _⟩

theorem Resolution.ends_of_inOrder {p : Produced} (h : Resolution env r (.ok p))
    (check : manifestRefusal p = none) (settings : LogSettings) :
    ∃ calls said, runResolve env settings r = deliver env.filesThen calls said r p := by
  obtain ⟨proceeds, d, resolved, load, prepare, result⟩ := h
  rw [runResolve_of_proceeds proceeds, resolveWith, load]
  simp only [resolveLoaded, prepare, result, check]
  exact ⟨_, _, rfl⟩

/-- What is wrong with the input or the manifests decides how the run ends. -/
theorem Stops.ends {code : Nat} (h : Stops env r code) (settings : LogSettings) :
    (runResolve env settings r).exit.number = code ∧
      (runResolve env settings r).LeavesNothing env.filesThen := by
  cases h with
  | definitionFile proceeds load =>
      rw [runResolve_of_proceeds proceeds, resolveWith, load]
      exact ⟨rfl, leavesNothing_refuse _ _ _ _⟩
  | labelsFile proceeds load given labels =>
      rw [runResolve_of_proceeds proceeds, resolveWith, load]
      simp only [resolveLoaded, resolveFor, given, labels]
      exact ⟨rfl, leavesNothing_refuse _ _ _ _⟩
  | definition resolution =>
      obtain ⟨exit, nothing⟩ := resolution.ends_of_error settings
      exact ⟨congrArg ExitCode.number exit, nothing⟩
  | lookup resolution =>
      obtain ⟨exit, nothing⟩ := resolution.ends_of_error settings
      exact ⟨congrArg ExitCode.number exit, nothing⟩
  | manifests resolution check invalid =>
      obtain ⟨said, refusal⟩ := manifestRefusal_of_messages check invalid
      obtain ⟨exit, nothing⟩ := resolution.ends_of_refusal refusal settings
      exact ⟨congrArg ExitCode.number exit, nothing⟩

/-- A run leaves nothing behind, or it delivers what a definition is resolved to, with manifests
that are in order. -/
theorem leavesNothing_or_delivers (env : Environment) (settings : LogSettings) (r : Request) :
    (runResolve env settings r).LeavesNothing env.filesThen ∨
      ∃ p calls said, Resolution env r (.ok p) ∧ Manifest.checkAll p.manifests = .ok [] ∧
        runResolve env settings r = deliver env.filesThen calls said r p := by
  by_cases proceeds : env.Proceeds
  · cases load : Definition.load env.loader env.filesThen r.definition with
    | error e =>
        rw [runResolve_of_proceeds proceeds, resolveWith, load]
        exact .inl (leavesNothing_refuse _ _ _ _)
    | ok d =>
        cases prepare : resolveFor env env.filesThen r d with
        | error refusal =>
            rw [runResolve_of_proceeds proceeds, resolveWith, load]
            simp only [resolveLoaded, prepare]
            exact .inl (leavesNothing_refuse _ _ _ _)
        | ok resolved =>
            cases result : resolved.run.result with
            | error e =>
                have resolution : Resolution env r (.error e) :=
                  ⟨proceeds, d, resolved, load, prepare, result⟩
                exact .inl (resolution.ends_of_error settings).2
            | ok p =>
                have resolution : Resolution env r (.ok p) :=
                  ⟨proceeds, d, resolved, load, prepare, result⟩
                cases check : manifestRefusal p with
                | some refusal => exact .inl (resolution.ends_of_refusal check settings).2
                | none =>
                    obtain ⟨calls, said, delivery⟩ := resolution.ends_of_inOrder check settings
                    exact .inr ⟨p, calls, said, resolution,
                      (manifestRefusal_eq_none_iff p).1 check, delivery⟩
  · exact .inl (leavesNothing_of_not_proceeds proceeds settings r)

end

/-! ## All runs of the command -/

/-- Whatever the arguments, files and cluster are: what is wrong with the input or the manifests
ends a run with its own exit code and leaves nothing behind, and so does a dry run; what is printed
is the whole of a resolution whose manifests are in order, by a run that ends well and was asked
neither for files nor for a dry run; and such a resolution is printed. -/
theorem run_safe (env : Environment) (arguments : List String) (settings : LogSettings)
    (r : Request) (asked : Asked.ofArguments env.files arguments = .resolve settings r) :
    (∀ code, Stops env r code → (run env arguments).exit.number = code ∧
      (run env arguments).LeavesNothing env.filesThen) ∧
    (r.dryRun = true → (run env arguments).LeavesNothing env.filesThen) ∧
    ((run env arguments).output ≠ "" →
      (run env arguments).exit.number = 0 ∧ r.output = none ∧ r.dryRun = false ∧
      ∃ p, Resolution env r (.ok p) ∧ Manifest.checkAll p.manifests = .ok [] ∧
        (run env arguments).output = p.render) ∧
    ∀ p, Resolution env r (.ok p) → Manifest.checkAll p.manifests = .ok [] →
      r.output = none → r.dryRun = false →
      (run env arguments).exit.number = 0 ∧ (run env arguments).output = p.render := by
  have hrun : run env arguments = runResolve env settings r := by
    unfold run
    rw [asked]
  rw [hrun]
  refine ⟨fun code stops => stops.ends settings, ?_, ?_, ?_⟩
  · intro dry
    rcases leavesNothing_or_delivers env settings r with nothing | ⟨p, calls, said, -, -, delivery⟩
    · exact nothing
    · rw [delivery]
      exact deliver_dryRun env.filesThen calls said p dry
  · intro printed
    rcases leavesNothing_or_delivers env settings r with nothing | ⟨p, calls, said, resolution,
      check, delivery⟩
    · exact absurd nothing.output printed
    · rw [delivery] at printed ⊢
      cases wet : r.dryRun with
      | true => exact absurd (deliver_dryRun env.filesThen calls said p wet).output printed
      | false =>
          cases named : r.output with
          | some folder =>
              exact absurd (deliver_write env.filesThen calls said p wet named) printed
          | none =>
              rw [deliver_print env.filesThen calls said p wet named]
              exact ⟨rfl, rfl, rfl, p, resolution, check, rfl⟩
  · intro p resolution check named wet
    obtain ⟨calls, said, delivery⟩ :=
      resolution.ends_of_inOrder ((manifestRefusal_eq_none_iff p).2 check) settings
    rw [delivery, deliver_print env.filesThen calls said p wet named]
    exact ⟨rfl, rfl⟩

/-- A computer with a file that is a list, where a definition should be. -/
def listComputer : Environment where
  loader := Yaml.load
  files := (FileTree.empty ["work"]).add ⟨0, ["d.yaml"]⟩ (.text "[]")
  home := ⟨1, ["home"]⟩
  cluster := ⟨[], [], []⟩
  version := none
  time := ""
  disturbance := none

/-- The request to resolve this file into a folder. -/
def listRequest : Request where
  definition := ⟨1, ["work", "d.yaml"]⟩
  output := some ⟨1, ["work", "out"]⟩
  dryRun := false
  namespaceLabels := none
  kubeconfig := none
  context := none

/-- A list is no definition: the run ends with the exit code for that, and the folder that it was to
write to is not made. -/
theorem listComputer_refused :
    Asked.ofArguments listComputer.files ["resolve", "-d", "d.yaml", "-o", "out"] =
        .resolve ⟨.warning, .console⟩ listRequest ∧
      Stops listComputer listRequest 5 ∧
      (run listComputer ["resolve", "-d", "d.yaml", "-o", "out"]).exit.number = 5 ∧
      (run listComputer ["resolve", "-d", "d.yaml", "-o", "out"]).LeavesNothing
        listComputer.filesThen := by
  have asked : Asked.ofArguments listComputer.files ["resolve", "-d", "d.yaml", "-o", "out"] =
      .resolve ⟨.warning, .console⟩ listRequest := by decide +kernel
  have load : Definition.load listComputer.loader listComputer.filesThen
      listRequest.definition = .error (.document "/work/d.yaml" (.notMapping "list")) := by rfl
  have stops : Stops listComputer listRequest 5 := .definitionFile trivial load
  exact ⟨asked, stops, (run_safe _ _ _ _ asked).1 5 stops⟩

end RoleGrants.CommandLine
