import RoleGrants.CommandLine.Help
import RoleGrants.CommandLine.Report
import RoleGrants.CommandLine.Request
import RoleGrants.Directory.Cluster
import RoleGrants.Directory.Static
import RoleGrants.Log.Line
import RoleGrants.Manifest.Output
import RoleGrants.Trace.Resolution

/-!
# Runs of the program

A run loads a definition, resolves it, checks the manifests, and renders or writes them. Namespaces
come from a file of labels if one is given; else the cluster is asked, but only if a grant has a
selector. What goes wrong ends the run with a line on the error; nothing is written unless
everything was resolved and the manifests are in order.

Manifests are all that goes to the output. The log, the summary and the errors go to a channel of
their own.
-/

namespace RoleGrants.CommandLine

/-- What may happen at the moment in which the definition is about to be read. -/
inductive Disturbance where
  /-- Something is taken away. -/
  | vanishes (place : List String)
  | interrupted
  | fails (failure : Failure)
  deriving Repr

/-- What a run finds. -/
structure Environment where
  /-- What makes values of the texts in files. -/
  loader : Yaml.Loader
  files : FileTree
  home : Path
  cluster : Cluster
  version : Option String
  /-- The time, as it stands in the log. -/
  time : String
  disturbance : Option Disturbance

/-- What a run leaves. -/
structure Outcome where
  exit : ExitCode
  output : String
  messages : String
  files : FileTree
  calls : List ClusterCall

/-! ## Stages of a run -/

/-- What a resolution is for the command line: the run without the state of its directory, and the
calls to the cluster. -/
structure Resolved where
  run : Definition.Run Unit
  calls : List ClusterCall

/-- A run without the state of its directory. -/
def Resolved.ofRun {σ : Type} (r : Definition.Run σ) (calls : List ClusterCall) : Resolved :=
  ⟨⟨r.result, r.steps, ()⟩, calls⟩

/-- Resolves a definition with the directory that a request asks for. No tracer is set up, so the
span has no context. -/
def resolveFor (env : Environment) (files : FileTree) (r : Request) (d : Definition) :
    Except Refusal Resolved :=
  match r.namespaceLabels with
  | some path =>
    match LabelTable.load env.loader files path with
    | .ok table => .ok (.ofRun (d.traced .invalid (some LabelTable.directory) table) [])
    | .error e => .error (loadRefusal e)
  | none =>
    if d.usesSelectors then
      match ClusterConfig.expand env.home ⟨r.kubeconfig.map Path.text, r.context⟩ with
      | .ok config =>
        let run := d.traced .invalid (some ClusterDirectory.directory) (.new config env.cluster)
        .ok (.ofRun run run.directory.calls.reverse)
      | .error _ => .error (unforeseen ClusterConfig.unknownHomeMessage)
    else .ok (.ofRun (d.traced .invalid none ()) [])

/-- The end of a run whose definition is not resolved. -/
def resolutionRefusal (e : ResolutionError) : Refusal :=
  match e with
  | .binding _ _ _ => (.validationError, errorText (Redaction.sanitize e.message))
  | .lookup _ _ _ => (.networkError, errorText (Redaction.sanitize e.message))
  | .badNamespace _ => unforeseen e.message

/-- The end of a run whose manifests are not in order, if they are not. -/
def manifestRefusal (p : Produced) : Option Refusal :=
  match Manifest.checkAll p.manifests with
  | .ok [] => none
  | .ok problems =>
    some (.validationError,
      String.join (problems.map errorText) ++ errorText "Resolved manifests are invalid")
  | .error fault => some (unforeseen fault.message)

/-- The record of a definition that was loaded. -/
def loadedRecord (path : Path) (d : Definition) : LogRecord :=
  ⟨.debug, "loader.definition_loaded",
    [("path", .text path.text), ("definition", .text d.name), ("bindings", .nat d.bindings.length)]⟩

/-- What the log tells of a step of a resolution. -/
def stepLine (env : Environment) (settings : LogSettings) (d : Definition) : Step → String
  | .event e => Log.line settings env.time .invalid (e.record d.name)
  | .log r => Log.line settings env.time .invalid r
  | .audit e => Log.messageLine settings e.level e.message
  | .query _ | .span _ => ""

/-- What the log tells of a definition and its resolution. -/
def logLines (env : Environment) (settings : LogSettings) (path : Path) (d : Definition)
    (r : Definition.Run Unit) : String :=
  Log.line settings env.time .invalid (loadedRecord path d)
    ++ String.join (r.steps.map (stepLine env settings d))

/-! ## The command -/

/-- The end of a run that fails. -/
def refuse (files : FileTree) (calls : List ClusterCall) (said : String) (r : Refusal) : Outcome :=
  ⟨r.1, "", said ++ r.2, files, calls⟩

/-- Renders or writes what was produced, as the request asks. -/
def deliver (files : FileTree) (calls : List ClusterCall) (said : String) (r : Request)
    (p : Produced) : Outcome :=
  if r.dryRun then
    ⟨.success, "", said ++ "Dry-run complete: no manifests written.\n", files, calls⟩
  else
    match r.output with
    | none => ⟨.success, p.render, said, files, calls⟩
    | some folder =>
      match ManifestFiles.write files folder p.manifests with
      | (.error fault, files) => refuse files calls said (unforeseen fault.message)
      | (.ok paths, files) =>
        let listed := String.join (paths.map fun path => "  " ++ path.text ++ "\n")
        let total := String.ofList (Number.decimal p.total)
        let wrote := "Wrote " ++ total ++ " objects to " ++ folder.text ++ "\n"
        ⟨.success, "", said ++ listed ++ wrote, files, calls⟩

/-- Goes on with a definition that was loaded. -/
def resolveLoaded (env : Environment) (files : FileTree) (settings : LogSettings) (r : Request)
    (d : Definition) : Outcome :=
  match resolveFor env files r d with
  | .error refusal =>
    refuse files [] (Log.line settings env.time .invalid (loadedRecord r.definition d)) refusal
  | .ok resolved =>
    let said := logLines env settings r.definition d resolved.run
    match resolved.run.result with
    | .error e => refuse files resolved.calls said (resolutionRefusal e)
    | .ok p =>
      match manifestRefusal p with
      | some refusal => refuse files resolved.calls said refusal
      | none => deliver files resolved.calls (said ++ p.summary d.name ++ "\n") r p

/-- Runs the command with the files that are there. -/
def resolveWith (env : Environment) (files : FileTree) (settings : LogSettings) (r : Request) :
    Outcome :=
  match Definition.load env.loader files r.definition with
  | .error e => refuse files [] "" (loadRefusal e)
  | .ok d => resolveLoaded env files settings r d

/-- Runs the command. -/
def runResolve (env : Environment) (settings : LogSettings) (r : Request) : Outcome :=
  match env.disturbance with
  | some .interrupted => ⟨.generalError, "", "\nAborted!\n", env.files, []⟩
  | some (.fails f) => refuse env.files [] "" (unforeseen f.message)
  | some (.vanishes place) => resolveWith env (env.files.remove place) settings r
  | none => resolveWith env env.files settings r

/-! ## The program -/

/-- Runs the program with arguments. -/
def run (env : Environment) (arguments : List String) : Outcome :=
  let ends := fun (exit : ExitCode) (output messages : String) =>
    (⟨exit, output, messages, env.files, []⟩ : Outcome)
  match Asked.ofArguments env.files arguments with
  | .nothing => ends .usageError "" (Scope.help .program)
  | .help scope => ends .success scope.help ""
  | .version => ends .success (Scope.programName ++ " " ++ versionText env.version ++ "\n") ""
  | .misused scope problem => ends .usageError "" (problem.report scope)
  | .resolve settings request => runResolve env settings request

end RoleGrants.CommandLine
