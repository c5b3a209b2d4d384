import UserAgent.Files.Error
import UserAgent.Text.Lines
import UserAgent.Text.Utf8

/-!
# Hosts

What a program needs from the machine that it runs on: files, variables, a clock, standard input and
output. The operations that fail give back why.
-/

namespace UserAgent

/-- The operations of a machine. -/
class Host (m : Type → Type) where
  /-- Whether something exists at a path. -/
  pathExists : Path → m Bool
  /-- Whether a path leads to a directory. -/
  isDirectory : Path → m Bool
  /-- The content of a file. -/
  readBytes : Path → m (Except FileError (List UInt8))
  /-- Give a file a content. -/
  writeBytes : Path → List UInt8 → m (Except FileError Unit)
  /-- Add to the end of a file, which is made if it does not exist. -/
  appendBytes : Path → List UInt8 → m (Except FileError Unit)
  /-- Make a directory in one that exists. -/
  makeDirectory : Path → m (Except FileError Unit)
  /-- The value of an environment variable. -/
  lookupVariable : String → m (Option String)
  /-- All of standard input. -/
  readInput : m String
  /-- Write to standard output. -/
  print : String → m Unit
  /-- Write to the error output. -/
  printError : String → m Unit
  /-- Whether standard output is a terminal. -/
  isTerminal : m Bool
  /-- The date and the time of day. -/
  time : m String
  /-- The nanoseconds since some moment. -/
  nanoseconds : m Nat

namespace Host

variable {m : Type → Type} [Monad m] [Host m]

/-! ### Lines -/

/-- Write a line to standard output. -/
def printLine (line : String) : m Unit :=
  print (line ++ "\n")

/-- Write a line to the error output. -/
def printErrorLine (line : String) : m Unit :=
  printError (line ++ "\n")

/-! ### Texts in files -/

/-- Why the text of a file cannot be read. -/
inductive TextError where
  | file (error : FileError)
  | encoding (fault : Utf8.Fault)
deriving DecidableEq

/-- The text that the content of a file stands for. -/
def textOf (content : List UInt8) : Except Utf8.Fault String :=
  (Utf8.decode content).map Text.normalizeLines

/-- The text of a file. -/
def readText (path : Path) : ExceptT TextError m String := do
  match ← readBytes (m := m) path with
  | .error e => throw (.file e)
  | .ok content =>
    match textOf content with
    | .ok text => return text
    | .error fault => throw (.encoding fault)

/-- Give a file a text. -/
def writeText (path : Path) (text : String) : m (Except FileError Unit) :=
  writeBytes path (Utf8.encode text)

/-! ### Directories -/

/-- Make a directory unless it exists. -/
def ensureDirectory (path : Path) : m (Except FileError Unit) := do
  match ← makeDirectory path with
  | .ok () => return .ok ()
  | .error e => return if ← isDirectory path then .ok () else .error e

/-- Make a directory, and as many of those above it as are missing, up to a number. -/
def ensureDirectories : (above : Nat) → Path → m (Except FileError Unit)
  | 0, path => ensureDirectory path
  | above + 1, path => do
    match ← ensureDirectory path with
    | .error ⟨.notFound, _⟩ =>
      match ← ensureDirectories above path.parent with
      | .ok () => ensureDirectory path
      | failed => return failed
    | done => return done

/-- Make a directory and all directories above it unless they exist. -/
def makeDirectories (path : Path) : m (Except FileError Unit) :=
  ensureDirectories path.names.length path

end Host

end UserAgent
