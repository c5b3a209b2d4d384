import UserAgent.Config
import UserAgent.Host
import UserAgent.Json.Reader

/-!
# Configuration files

A configuration is read from a file that holds it as JSON, and written to one. Where there is no file,
the configuration is the default one.
-/

namespace UserAgent.Config

/-- Why a configuration cannot be read from a file. -/
inductive LoadError where
  | unreadable (error : FileError)
  | encoding (fault : Utf8.Fault)
  | notJson
  /-- The text has an integer with more digits than are converted. -/
  | tooManyDigits (count : Nat)
  | refused (error : Error)
deriving DecidableEq

namespace LoadError

/-- The words for why a configuration cannot be read. -/
def message : LoadError → String
  | unreadable error => error.message
  | encoding fault => fault.message
  | notJson => Json.ReadError.malformed.message
  | tooManyDigits count => numeralLimitMessage count
  | refused error => error.message

/-- Whether the file is at fault in a way that is reported: it holds no text, no JSON, or a form of
output that is unknown. -/
def isReported : LoadError → Bool
  | encoding _ | notJson | tooManyDigits _ | refused (.unknownFormat _) => true
  | unreadable _ | refused _ => false

end LoadError

/-! ### Reading -/

/-- The configuration that the text of a file stands for. -/
def ofText (directory : Path) (text : String) : Except LoadError Config :=
  match Json.parse text with
  | .ok data => (ofJson directory data).mapError .refused
  | .error (.tooManyDigits count) => .error (.tooManyDigits count)
  | .error _ => .error .notJson

/-- The configuration file in a directory. -/
def fileIn (directory : Path) : Path :=
  directory.child fileName

variable {m : Type → Type} [Monad m] [Host m]

/-- Read a configuration from a file, or from the one in the directory of the program. -/
def load (directory : Path) (path : Option Path) : m (Except LoadError Config) := do
  let path := path.getD (fileIn directory)
  if ← Host.pathExists path then
    match ← (Host.readText path).run with
    | .ok text => return ofText directory text
    | .error (.file e) => return .error (.unreadable e)
    | .error (.encoding fault) => return .error (.encoding fault)
  else return .ok (default directory)

/-! ### Writing -/

/-- A configuration as the text of a file. -/
def toText (c : Config) : String :=
  c.toJson.render (.indented 2)

/-- Write a configuration to a file, or to the one in its directory, which is made if it does not
exist. Gives the path of the file. -/
def save (c : Config) (path : Option Path) : m (Except FileError Path) := do
  let path := path.getD (fileIn c.configDirectory)
  match ← Host.makeDirectories path.parent with
  | .error e => return .error e
  | .ok () => return (← Host.writeText path c.toText).map fun () => path

end UserAgent.Config
