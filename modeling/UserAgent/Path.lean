import UserAgent.Text.Slice
import UserAgent.Text.Trim

/-!
# Paths

A path is a root and the names below it. Empty names and single dots in the text of a path have no
meaning and are left out; double dots are kept, since a name before them may not be a directory.
-/

namespace UserAgent

/-- Where a path begins. -/
inductive PathRoot where
  /-- At the working directory. -/
  | none
  /-- At the root directory. -/
  | slash
  /-- At a root that is written with exactly two slashes. -/
  | twoSlashes
deriving DecidableEq, Repr

/-- The text of a root. -/
def PathRoot.text : PathRoot → String
  | none => ""
  | slash => "/"
  | twoSlashes => "//"

/-- A path to a file or directory. -/
structure Path where
  root : PathRoot
  names : List String
deriving DecidableEq, Repr

namespace Path

/-! ### Reading and writing -/

/-- The root that the first characters of a path stand for. -/
def rootOf : List Char → PathRoot
  | '/' :: '/' :: '/' :: _ => .slash
  | '/' :: '/' :: _ => .twoSlashes
  | '/' :: _ => .slash
  | _ => .none

/-- Whether a name has a meaning of its own. -/
def isName (name : String) : Bool :=
  !name.isEmpty && name != "."

/-- The path that a text stands for. -/
def ofText (text : String) : Path :=
  ⟨rootOf text.toList, (Text.splitOn '/' text).filter isName⟩

/-- The text of a path; the empty path is the working directory. -/
def toText (p : Path) : String :=
  if p.root = .none && p.names.isEmpty then "."
  else p.root.text ++ Text.joinWith "/" p.names

/-! ### Parts -/

/-- Whether a path does not begin at the working directory. -/
def isAbsolute (p : Path) : Bool :=
  p.root != .none

/-- The path without its last name. -/
def parent (p : Path) : Path :=
  { p with names := p.names.dropLast }

/-- A path seen from a directory. -/
def below (directory p : Path) : Path :=
  if p.isAbsolute then p else { directory with names := directory.names ++ p.names }

/-- A name in a directory. -/
def child (p : Path) (name : String) : Path :=
  p.below (ofText name)

/-! ### Home directories -/

/-- Replace a tilde at the beginning by the home directory, if there is one. A tilde with the name of a
user has no meaning. -/
def expandHome? (home : Option String) (p : Path) : Option Path :=
  match p.root, p.names with
  | .none, name :: names =>
    match name.toList with
    | ['~'] => home.map fun home =>
      let home := Text.dropEndWhile (· == '/') home
      let directory := ofText (if home.isEmpty then "/" else home)
      { directory with names := directory.names ++ names }
    | '~' :: _ => none
    | _ => some p
  | _, _ => some p

end Path

end UserAgent
