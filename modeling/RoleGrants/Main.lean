import RoleGrants.CommandLine.Run
import Std.Time.DateTime.Timestamp

/-!
# The program on a computer

The outer layer: looks at the files that the arguments name, runs the program, shows what it says,
and writes the files that are new or changed. No cluster can be reached from here, so namespaces
come from a file of labels.
-/

namespace RoleGrants.Main

open RoleGrants.CommandLine

/-- What is at a path on the computer. -/
def entryOnDisk (path : String) : IO (Option FileEntry) := do
  try
    let bytes ← IO.FS.readBinFile path
    return some (FileTree.entryOfBytes bytes.toList)
  catch
    | .inappropriateType .. => return some .folder
    | _ => return none

/-- The text of a place. -/
def placeText (place : List String) : String := "/" ++ "/".intercalate place

/-- The paths that an argument may name: all of it, what follows an equals sign, and what follows a
letter behind a dash. -/
def candidates (argument : String) : List String :=
  let cs := argument.toList
  [argument, String.ofList ((cs.dropWhile (· ≠ '=')).drop 1), String.ofList (cs.drop 2)]

/-- The tree with everything on the way to a path. -/
def loadPath (t : FileTree) (path : String) : IO FileTree := do
  let mut t := t
  for place in FileTree.foldersTo (t.resolved (.ofText path)).parts do
    if (t.entryAt place).isNone then
      match ← entryOnDisk (placeText place) with
      | some e => t := t.put place e
      | none => pure ()
  return t

/-- Writes an entry to the computer. -/
def writeEntry (place : List String) : FileEntry → IO Unit
  | .folder => IO.FS.createDirAll (placeText place)
  | .text s => IO.FS.writeFile (placeText place) s
  | .binary bytes => IO.FS.writeBinFile (placeText place) (ByteArray.mk bytes.toArray)

/-- The time, in the international format. -/
def timeText : IO String := do
  let now ← Std.Time.Timestamp.now
  let nanos := now.toNanosecondsSinceUnixEpoch.val
  match Calendar.Moment.ofUnixSeconds (Int.fdiv nanos 1000000000)
      ((Int.fmod nanos 1000000000).toNat / 1000) with
  | some m => return String.ofList { m with offset := none }.isoText ++ "Z"
  | none => return ""

/-- What a run finds on the computer. -/
def environment (arguments : List String) : IO Environment := do
  let folder := (Path.ofText (← IO.currentDir).toString).parts
  let mut files := FileTree.empty folder
  for argument in arguments do
    for path in candidates argument do
      files ← loadPath files path
  return {
    loader := Yaml.load
    files := files
    home := .ofText ((← IO.getEnv "HOME").getD "/")
    cluster := ⟨[], [], []⟩
    version := some version
    time := ← timeText
    disturbance := none
  }

end RoleGrants.Main

/-- Runs the program on the computer. -/
def main (arguments : List String) : IO UInt32 := do
  let env ← RoleGrants.Main.environment arguments
  let outcome := RoleGrants.CommandLine.run env arguments
  for (place, entry) in outcome.files.entries do
    if env.files.entryAt place != some entry then
      RoleGrants.Main.writeEntry place entry
  IO.eprint outcome.messages
  IO.print outcome.output
  return UInt32.ofNat outcome.exit.number
