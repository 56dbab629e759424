import RoleGrants.CommandLine.Options
import RoleGrants.Text.Quoted

/-!
# Wrong usage

What is said when the arguments make no sense. The usage of the command and where to find help are
shown in front, unless the value of an option is missing or there is one too many.
-/

namespace RoleGrants.CommandLine

open RoleGrants.Text

/-- The command the arguments belong to. -/
inductive Scope where
  | program
  | resolve
  deriving DecidableEq, Repr

namespace Scope

/-- The name by which the program is called. -/
def programName : String := "rbac-manager"

/-- The name of the command. -/
def resolveName : String := "resolve"

/-- How a command is called. -/
def path : Scope → String
  | .program => programName
  | .resolve => programName ++ " " ++ resolveName

/-- The usage of a command. -/
def usage : Scope → String
  | .program => "Usage: " ++ path .program ++ " [OPTIONS] COMMAND [ARGS]...\n"
  | .resolve => "Usage: " ++ path .resolve ++ " [OPTIONS]\n"

end Scope

/-- What can be wrong with the value of an option. -/
inductive ValueProblem where
  | notAmong (value : String) (choices : List String)
  | noFile (text : String)
  /-- A file is asked for, and the path is that of a folder. -/
  | isFolder (text : String)
  /-- A folder is asked for, and the path is that of a file. -/
  | isFile (text : String)
  deriving DecidableEq, Repr

/-- Several texts between quotes. -/
def quotedList (texts : List String) : String := ", ".intercalate (texts.map quotedString)

/-- The wording of a problem with a value. -/
def ValueProblem.wording : ValueProblem → String
  | .notAmong value choices => quotedString value ++ " is not one of " ++ quotedList choices
  | .noFile text => "File " ++ quotedString text ++ " does not exist"
  | .isFolder text => "File " ++ quotedString text ++ " is a directory"
  | .isFile text => "Directory " ++ quotedString text ++ " is a file"

/-- What can be wrong with arguments. -/
inductive UsageProblem where
  | option (problem : OptionProblem)
  /-- An option that has to be there is not; the names it goes by. -/
  | missingOption (names : List String)
  | badValue (names : List String) (problem : ValueProblem)
  | missingCommand
  /-- No command has the name; the names that are like it. -/
  | unknownCommand (name : String) (similar : List String)
  | extraArguments (arguments : List String)
  deriving DecidableEq, Repr

/-- What may have been meant. -/
def suggestion (similar : List String) : String :=
  match sortedBy (fun a b => decide (a ≤ b)) similar with
  | [] => ""
  | [one] => " Did you mean " ++ quotedString one ++ "?"
  | several => " (Possible options: " ++ quotedList several ++ ")"

/-- The names of an option, as they are shown together. -/
def namesTogether (names : List String) : String := " / ".intercalate (names.map quotedString)

/-- The wording of a problem. -/
def UsageProblem.wording : UsageProblem → String
  | .option (.unknown name similar) =>
    "No such option " ++ quotedString name ++ "." ++ suggestion similar
  | .option (.missingValue name) => "Option " ++ quotedString name ++ " requires an argument."
  | .option (.unwantedValue name) => "Option " ++ quotedString name ++ " does not take a value."
  | .missingOption names => "Missing option " ++ namesTogether names ++ "."
  | .badValue names problem =>
    "Invalid value for " ++ namesTogether names ++ ": " ++ problem.wording ++ "."
  | .missingCommand => "Missing command."
  | .unknownCommand name similar =>
    "No such command " ++ quotedString name ++ "." ++ suggestion similar
  | .extraArguments arguments =>
    "Got unexpected extra argument" ++ (if arguments.length = 1 then "" else "s") ++ " ("
      ++ " ".intercalate arguments ++ ")"

/-- Whether the usage of the command is shown in front of a problem. -/
def UsageProblem.showsUsage : UsageProblem → Bool
  | .option (.missingValue _) | .option (.unwantedValue _) => false
  | _ => true

/-- A line on an error. -/
def errorText (message : String) : String := "Error: " ++ message ++ "\n"

/-- Everything that is said about a problem with the arguments of a command. -/
def UsageProblem.report (scope : Scope) (problem : UsageProblem) : String :=
  (if problem.showsUsage then
      scope.usage ++ "Try '" ++ scope.path ++ " --help' for help.\n\n"
    else "") ++ errorText problem.wording

end RoleGrants.CommandLine
