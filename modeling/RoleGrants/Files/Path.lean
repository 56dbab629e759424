import RoleGrants.Text.Quoted

/-!
# Paths

A path in normal form: empty parts and single points are left out, double points stay, because what
they lead to depends on the folders there are. Exactly two slashes at the beginning are kept apart
from one.
-/

namespace RoleGrants

open RoleGrants.Text

/-- A path to a file or a folder. -/
structure Path where
  /-- How many slashes the path begins with; none for a relative path. -/
  slashes : Nat
  parts : List String
  deriving DecidableEq, Repr

namespace Path

/-- Whether a part of a path leads anywhere. -/
def isStep (part : List Char) : Bool := !part.isEmpty && part != ['.']

/-- The path that a text spells. -/
def ofText (s : String) : Path :=
  let cs := s.toList
  let n := (cs.takeWhile (· = '/')).length
  ⟨if n = 2 then 2 else min n 1, ((splitAt '/' cs).filter isStep).map String.ofList⟩

/-- Whether a path begins at the root. -/
def isAbsolute (p : Path) : Bool := p.slashes != 0

/-- The text of a path; a point where there are no parts. -/
def text (p : Path) : String :=
  let body := "/".intercalate p.parts
  if p.slashes = 0 && p.parts.isEmpty then "."
  else String.ofList (List.replicate p.slashes '/') ++ body

/-- The path to something inside a folder; an absolute path stays as it is. -/
def child (p : Path) (name : String) : Path :=
  let q := ofText name
  if q.isAbsolute then q else ⟨p.slashes, p.parts ++ q.parts⟩

/-- The folder that a path lies in. -/
def parent (p : Path) : Path := ⟨p.slashes, p.parts.dropLast⟩

end Path

/-- Why something cannot be done with a path. -/
inductive FileProblem where
  | notFound
  | alreadyThere
  | notFolder
  | isFolder
  deriving DecidableEq, Repr

/-- The number and the wording of a problem. -/
def FileProblem.wording : FileProblem → String
  | .notFound => "[Errno 2] No such file or directory"
  | .alreadyThere => "[Errno 17] File exists"
  | .notFolder => "[Errno 20] Not a directory"
  | .isFolder => "[Errno 21] Is a directory"

/-- A problem with a path. -/
structure FileFault where
  problem : FileProblem
  path : String
  deriving DecidableEq, Repr

/-- The message of a fault. -/
def FileFault.message (f : FileFault) : String := f.problem.wording ++ ": " ++ quotedString f.path

end RoleGrants
