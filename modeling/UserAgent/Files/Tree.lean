import UserAgent.Assoc
import UserAgent.Files.Error

/-!
# File trees

A file tree gives the contents of files and the directories that exist. A location is the list of the
names from the root directory on; a path is resolved name by name, and every name but the last has to
be that of a directory.
-/

namespace UserAgent

/-- What stands at a location. -/
inductive Entry where
  | file (content : List UInt8)
  | directory
deriving DecidableEq

/-- The names on the way from the root directory. -/
abbrev Location := List String

/-- The files and directories of a machine, and the directory that relative paths begin at. -/
structure FileTree where
  entries : Assoc Location Entry := []
  workingDirectory : Location := []
deriving DecidableEq

namespace FileTree

/-- What stands at a location. The root directory always exists. -/
def entry? (t : FileTree) (location : Location) : Option Entry :=
  if location.isEmpty then some .directory else Assoc.get? location t.entries

/-- The tree with an entry at a location. -/
def setEntry (t : FileTree) (location : Location) (entry : Entry) : FileTree :=
  { t with entries := Assoc.insert location entry t.entries }

/-! ### Resolution of paths -/

/-- Go from a location to a name in it; double dots lead to the directory above. -/
def step (location : Location) (name : String) : Location :=
  if name = ".." then location.dropLast else location ++ [name]

/-- Follow names from a location. -/
def follow (t : FileTree) : Location → List String → Except FileCause Location
  | location, [] => .ok location
  | location, name :: names =>
    match t.entry? location with
    | some .directory => follow t (step location name) names
    | some (.file _) => .error .notDirectory
    | none => .error .notFound

/-- The location that a path leads to. Nothing has to exist there. -/
def locate (t : FileTree) (p : Path) : Except FileError Location :=
  (t.follow (if p.isAbsolute then [] else t.workingDirectory) p.names).mapError (⟨·, p⟩)

/-- What stands at a path. -/
def lookup? (t : FileTree) (p : Path) : Option Entry :=
  match t.locate p with
  | .ok location => t.entry? location
  | .error _ => none

/-! ### Operations -/

/-- The content of a file. -/
def read (t : FileTree) (p : Path) : Except FileError (List UInt8) := do
  match t.entry? (← t.locate p) with
  | some (.file content) => return content
  | some .directory => .error ⟨.isDirectory, p⟩
  | none => .error ⟨.notFound, p⟩

/-- Give a file a new content, which may depend on the one that it has. A file that does not exist is
made. -/
def update (t : FileTree) (p : Path) (f : List UInt8 → List UInt8) :
    Except FileError FileTree := do
  let location ← t.locate p
  match t.entry? location with
  | some (.file content) => return t.setEntry location (.file (f content))
  | some .directory => .error ⟨.isDirectory, p⟩
  | none => return t.setEntry location (.file (f []))

/-- Give a file a content. -/
def write (t : FileTree) (p : Path) (content : List UInt8) : Except FileError FileTree :=
  t.update p fun _ => content

/-- Add to the end of a file. -/
def append (t : FileTree) (p : Path) (content : List UInt8) : Except FileError FileTree :=
  t.update p (· ++ content)

/-- Make a directory in one that exists. -/
def makeDirectory (t : FileTree) (p : Path) : Except FileError FileTree := do
  let location ← t.locate p
  match t.entry? location with
  | some _ => .error ⟨.alreadyExists, p⟩
  | none => return t.setEntry location .directory

/-- The locations below the working directory, from there on. -/
def below (t : FileTree) : List Location :=
  (Assoc.keys t.entries).filterMap fun location =>
    if t.workingDirectory.isPrefixOf location && location != t.workingDirectory then
      some (location.drop t.workingDirectory.length)
    else none

end FileTree

end UserAgent
