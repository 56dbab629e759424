import RoleGrants.Files.Path
import RoleGrants.Sorting
import RoleGrants.Text.Utf8

/-!
# File trees

The files and folders of a computer as a finite map from places to what is there. A place is the
list of names that lead to it from the root; the root and the working folder are there from the
start.

`entryAt_put` and `entryAt_put_of_ne` say that putting something at a place changes that place and
no other.
-/

namespace RoleGrants

open RoleGrants.Text

/-- What is at a place. -/
inductive FileEntry where
  | folder
  | text (content : String)
  /-- A file whose bytes are no text. -/
  | binary (bytes : List UInt8)
  deriving DecidableEq, Repr

/-- The files and folders of a computer. -/
structure FileTree where
  workingFolder : List String
  entries : List (List String × FileEntry)
  deriving DecidableEq, Repr

namespace FileTree

/-- Looks a place up. -/
def lookup (place : List String) : List (List String × FileEntry) → Option FileEntry
  | [] => none
  | (p, e) :: rest => if p = place then some e else lookup place rest

/-- What is at a place. -/
def entryAt (t : FileTree) (place : List String) : Option FileEntry :=
  if place.isEmpty then some .folder else lookup place t.entries

/-- Puts an entry into a list of entries; the entry that was there is replaced. -/
def putIn (place : List String) (e : FileEntry) :
    List (List String × FileEntry) → List (List String × FileEntry)
  | [] => [(place, e)]
  | (p, old) :: rest => if p = place then (p, e) :: rest else (p, old) :: putIn place e rest

/-- Puts something at a place. -/
def put (t : FileTree) (place : List String) (e : FileEntry) : FileTree :=
  { t with entries := putIn place e t.entries }

/-- The tree with nothing at a place. -/
def remove (t : FileTree) (place : List String) : FileTree :=
  { t with entries := t.entries.filter fun e => e.1 != place }

theorem lookup_putIn (place : List String) (e : FileEntry)
    (entries : List (List String × FileEntry)) : lookup place (putIn place e entries) = some e := by
  induction entries with
  | nil => simp [putIn, lookup]
  | cons head rest ih => by_cases h : head.1 = place <;> simp [putIn, lookup, h, ih]

theorem lookup_putIn_of_ne {place other : List String} (h : other ≠ place) (e : FileEntry)
    (entries : List (List String × FileEntry)) :
    lookup other (putIn place e entries) = lookup other entries := by
  induction entries with
  | nil => simp [putIn, lookup, Ne.symm h]
  | cons head rest ih =>
    by_cases hk : head.1 = place
    · simp [putIn, lookup, hk, Ne.symm h]
    · rw [putIn, if_neg hk, lookup, lookup, ih]

/-- What was put at a place is there. -/
theorem entryAt_put (t : FileTree) {place : List String} (h : place ≠ []) (e : FileEntry) :
    (t.put place e).entryAt place = some e := by
  simp [entryAt, put, h, lookup_putIn]

/-- All other places stay as they were. -/
theorem entryAt_put_of_ne (t : FileTree) {place other : List String} (h : other ≠ place)
    (e : FileEntry) : (t.put place e).entryAt other = t.entryAt other := by
  simp [entryAt, put, lookup_putIn_of_ne h]

/-- Whether a folder is at a place. -/
def isFolder (t : FileTree) (place : List String) : Bool := t.entryAt place == some .folder

/-! ## Following paths -/

/-- The place that names lead to from a folder. Every name but the last has to be that of a
folder; two points lead back to the folder above. -/
def follow (t : FileTree) (start : List String) : List String → Except FileProblem (List String)
  | [] => .ok start
  | name :: rest =>
    let place := if name = ".." then start.dropLast else start ++ [name]
    if rest.isEmpty then .ok place
    else
      match t.entryAt place with
      | some .folder => follow t place rest
      | some _ => .error .notFolder
      | none => .error .notFound

/-- The place that a path leads to. -/
def locate (t : FileTree) (p : Path) : Except FileProblem (List String) :=
  t.follow (if p.isAbsolute then [] else t.workingFolder) p.parts

/-- The path from the root that a path means when two points lead back to the folder above,
whatever is there. -/
def resolved (t : FileTree) (p : Path) : Path :=
  let start := if p.isAbsolute then [] else t.workingFolder
  let step := fun (place : List String) (name : String) =>
    if name = ".." then place.dropLast else place ++ [name]
  ⟨1, p.parts.foldl step start⟩

/-- Whether a path leads to a folder. -/
def hasFolder (t : FileTree) (p : Path) : Bool :=
  match t.locate p with
  | .ok place => t.isFolder place
  | .error _ => false

/-! ## Reading and writing -/

/-- A problem with a path, as a fault. -/
def fault {α : Type} (p : Path) (problem : FileProblem) : Except FileFault α :=
  .error ⟨problem, p.text⟩

/-- The content of a file, as text if it is one. -/
def read (t : FileTree) (p : Path) : Except FileFault (String ⊕ List UInt8) :=
  match t.locate p with
  | .error problem => fault p problem
  | .ok place =>
    match t.entryAt place with
    | some (.text content) => .ok (.inl content)
    | some (.binary bytes) => .ok (.inr bytes)
    | some .folder => fault p .isFolder
    | none => fault p .notFound

/-- Writes a text to a file, which is made if it is not there. -/
def write (t : FileTree) (p : Path) (content : String) : Except FileFault FileTree :=
  match t.locate p with
  | .error problem => fault p problem
  | .ok place =>
    if t.isFolder place then fault p .isFolder else .ok (t.put place (.text content))

/-- Makes a folder in a folder that is there. -/
def makeFolder (t : FileTree) (p : Path) : Except FileFault FileTree :=
  match t.locate p with
  | .error problem => fault p problem
  | .ok place =>
    match t.entryAt place with
    | some _ => fault p .alreadyThere
    | none => .ok (t.put place .folder)

/-- Makes a folder in a folder that is there, unless a folder is there already. -/
def makeOrKeepFolder (t : FileTree) (p : Path) : Except FileFault FileTree :=
  match t.makeFolder p with
  | .ok t => .ok t
  | .error f => if t.hasFolder p then .ok t else .error f

/-- Makes a folder and the folders it lies in, as far as they are not there: the tree that was
reached, and the fault if there is one. The number bounds how many folders are tried, from the
inner ones outwards. -/
def makeFolders (t : FileTree) : Nat → Path → Option FileFault × FileTree
  | depth, p =>
    match t.makeOrKeepFolder p, depth with
    | .ok t, _ => (none, t)
    | .error f, 0 => (some f, t)
    | .error f, depth + 1 =>
      if f.problem = .notFound then
        match t.makeFolders depth p.parent with
        | (some f, t) => (some f, t)
        | (none, t) =>
          match t.makeOrKeepFolder p with
          | .ok t => (none, t)
          | .error f => (some f, t)
      else (some f, t)

/-- Makes the folder a path names, with all the folders it lies in. -/
def ensureFolder (t : FileTree) (p : Path) : Option FileFault × FileTree :=
  t.makeFolders p.parts.length p

/-! ## Making trees -/

/-- The folders on the way to a place. -/
def foldersTo (place : List String) : List (List String) :=
  (List.range place.length).map fun n => place.take (n + 1)

/-- The tree with nothing in it but a working folder. -/
def empty (workingFolder : List String) : FileTree :=
  ⟨workingFolder, (foldersTo workingFolder).map (·, .folder)⟩

/-- Adds something at a path below the working folder, with the folders it lies in. -/
def add (t : FileTree) (p : Path) (e : FileEntry) : FileTree :=
  let place := t.workingFolder ++ p.parts
  let t := (foldersTo place.dropLast).foldl
    (fun t folder => if (t.entryAt folder).isSome then t else t.put folder .folder) t
  t.put place e

/-- What is there of some bytes. -/
def entryOfBytes (bytes : List UInt8) : FileEntry :=
  match decodeUtf8 bytes with
  | .ok text => .text (String.ofList text)
  | .error _ => .binary bytes

/-- Whether a list of names comes no later than another. -/
def placeLe : List String → List String → Bool
  | [], _ => true
  | _, [] => false
  | a :: as, b :: bs => a < b || (a == b && placeLe as bs)

/-- Everything below the working folder, by its place there. -/
def listing (t : FileTree) : List (List String × FileEntry) :=
  let n := t.workingFolder.length
  let below := t.entries.filterMap fun e =>
    if e.1.take n = t.workingFolder && n < e.1.length then some (e.1.drop n, e.2) else none
  sortedBy (fun a b => placeLe a.1 b.1) below

end FileTree

end RoleGrants
