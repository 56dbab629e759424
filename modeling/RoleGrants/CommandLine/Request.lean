import RoleGrants.CommandLine.Usage
import RoleGrants.Files.Tree
import RoleGrants.Log.Settings

/-!
# Requests

What the arguments ask for. The options of the program come first, then the name of a command, then
the options of the command. Asking for help or for the version comes before everything else that the
options of a command say. The values of options are then checked in the order in which the options
are given; those that are not given come last.
-/

namespace RoleGrants.CommandLine

/-! ## Options of the program -/

/-- The options of the program. -/
inductive ProgramOption where
  | version
  | logLevel
  | jsonLogs
  | consoleLogs
  | help
  deriving DecidableEq, Repr

/-- The names of the options of the program. -/
def ProgramOption.names : List (OptionName ProgramOption) :=
  [⟨"--version", .version, false⟩, ⟨"--log-level", .logLevel, true⟩,
   ⟨"--json-logs", .jsonLogs, false⟩, ⟨"--console-logs", .consoleLogs, false⟩,
   ⟨"-h", .help, false⟩, ⟨"--help", .help, false⟩]

/-- The levels that may be asked for. -/
def levelChoices : List (String × LogLevel) :=
  [("debug", .debug), ("info", .info), ("warning", .warning), ("error", .error)]

/-- The log settings that options ask for. Warnings and errors are shown, in columns, where nothing
else is asked for. -/
def logSettings (options : List (Found ProgramOption)) : Except UsageProblem LogSettings :=
  let format : LogFormat :=
    match lastOption? options (fun o => o = .jsonLogs || o = .consoleLogs) with
    | some .jsonLogs => .json
    | _ => .console
  match lastValue? options (· = .logLevel) with
  | none => .ok ⟨.warning, format⟩
  | some word =>
    match levelChoices.lookup (String.ofList (word.toList.map Char.toLower)) with
    | some level => .ok ⟨level, format⟩
    | none =>
      .error (.badValue ["--log-level"] (.notAmong word (levelChoices.map fun choice => choice.1)))

/-! ## Options of the command -/

/-- The options of the command. -/
inductive ResolveOption where
  | definition
  | output
  | dryRun
  | namespaceLabels
  | kubeconfig
  | context
  | help
  deriving DecidableEq, Repr

namespace ResolveOption

/-- The options in the order in which they are declared. -/
def all : List ResolveOption :=
  [.definition, .output, .dryRun, .namespaceLabels, .kubeconfig, .context, .help]

/-- The names an option goes by. -/
def called : ResolveOption → List String
  | .definition => ["--definition", "-d"]
  | .output => ["--output", "-o"]
  | .dryRun => ["--dry-run"]
  | .namespaceLabels => ["--namespace-labels"]
  | .kubeconfig => ["--kubeconfig"]
  | .context => ["--context"]
  | .help => ["-h", "--help"]

/-- Whether a value belongs to an option. -/
def takesValue : ResolveOption → Bool
  | .dryRun | .help => false
  | _ => true

/-- The names of the options of the command. -/
def names : List (OptionName ResolveOption) :=
  all.flatMap fun o => o.called.map fun name => ⟨name, o, o.takesValue⟩

end ResolveOption

/-- What the command is asked to do. -/
structure Request where
  definition : Path
  output : Option Path
  dryRun : Bool
  namespaceLabels : Option Path
  kubeconfig : Option Path
  context : Option String
  deriving DecidableEq, Repr

/-- What is at a path, if anything is. -/
def entryAtPath? (files : FileTree) (p : Path) : Option FileEntry :=
  match files.locate p with
  | .ok place => files.entryAt place
  | .error _ => none

/-- Checks the value of an option, or that it may be left out. -/
def checkOption (files : FileTree) (options : List (Found ResolveOption)) (o : ResolveOption) :
    Except UsageProblem Unit :=
  let bad := fun problem => (.error (.badValue o.called problem) : Except UsageProblem Unit)
  match o, lastValue? options (· = o) with
  | .definition, none => .error (.missingOption o.called)
  | .definition, some text | .namespaceLabels, some text =>
    match entryAtPath? files (files.resolved (.ofText text)) with
    | none => bad (.noFile text)
    | some .folder => bad (.isFolder text)
    | some _ => .ok ()
  | .output, some text =>
    match entryAtPath? files (files.resolved (.ofText text)) with
    | none | some .folder => .ok ()
    | some _ => bad (.isFile text)
  | .kubeconfig, some text =>
    match if text.isEmpty then none else entryAtPath? files (.ofText text) with
    | some .folder => bad (.isFolder text)
    | _ => .ok ()
  | _, _ => .ok ()

/-- The order in which options are checked. -/
def checkOrder (options : List (Found ResolveOption)) : List ResolveOption :=
  let given := options.map (·.option)
  given ++ ResolveOption.all.filter fun o => !given.contains o

/-- The request that options make, and the arguments that are left over. -/
def Request.ofArguments (files : FileTree) (arguments : Arguments ResolveOption) :
    Except UsageProblem Request := do
  let options := arguments.options
  (checkOrder options).forM (checkOption files options)
  if !arguments.others.isEmpty then throw (.extraArguments arguments.others)
  let path := fun o => (lastValue? options (· = o)).map Path.ofText
  return {
    definition := files.resolved ((path .definition).getD ⟨0, []⟩)
    output := (path .output).map files.resolved
    dryRun := (lastOption? options (· = .dryRun)).isSome
    namespaceLabels := (path .namespaceLabels).map files.resolved
    kubeconfig := path .kubeconfig
    context := lastValue? options (· = .context)
  }

/-! ## All arguments -/

/-- What all arguments together ask for. -/
inductive Asked where
  | help (scope : Scope)
  | version
  /-- Nothing is asked for at all. -/
  | nothing
  | resolve (settings : LogSettings) (request : Request)
  | misused (scope : Scope) (problem : UsageProblem)
  deriving DecidableEq, Repr

/-- What the arguments of the command ask for. -/
def askedOfResolve (files : FileTree) (settings : LogSettings) (arguments : List String) : Asked :=
  match readArguments ResolveOption.names true arguments with
  | .error problem => .misused .resolve (.option problem)
  | .ok found =>
    if found.options.any (·.option = .help) then .help .resolve
    else
      match Request.ofArguments files found with
      | .ok request => .resolve settings request
      | .error problem => .misused .resolve problem

/-- What the options of the program ask for, apart from commands: help, the version, or settings
with the arguments that are left. -/
def askedOfProgram (arguments : List String) : Except Asked (LogSettings × List String) :=
  match readArguments ProgramOption.names false arguments with
  | .error problem => .error (.misused .program (.option problem))
  | .ok found =>
    match found.options.find? fun f => f.option = .help || f.option = .version with
    | some ⟨.help, _⟩ => .error (.help .program)
    | some _ => .error .version
    | none =>
      match logSettings found.options with
      | .error problem => .error (.misused .program problem)
      | .ok settings => .ok (settings, found.others)

/-- What an unknown name of a command asks for. A name that looks like an option is first read as
one. -/
def askedOfUnknown (name : String) (arguments : List String) : Asked :=
  let unknown := Asked.misused .program
    (.unknownCommand name (Text.similarTexts name [Scope.resolveName]))
  if name.toList.head? = some '-' then
    match askedOfProgram arguments with
    | .error asked => asked
    | .ok _ => unknown
  else unknown

/-- What all arguments ask for, with the files that are there. -/
def Asked.ofArguments (files : FileTree) (arguments : List String) : Asked :=
  if arguments.isEmpty then .nothing
  else
    match askedOfProgram arguments with
    | .error asked => asked
    | .ok (_, []) => .misused .program .missingCommand
    | .ok (settings, name :: rest) =>
      if name = Scope.resolveName then askedOfResolve files settings rest
      else askedOfUnknown name (name :: rest)

end RoleGrants.CommandLine
