import UserAgent.Digest.Sha256
import UserAgent.Host
import UserAgent.RuleSet

/-!
# Files of rule tables

A rule set is read from a file that holds a rule table as JSON, perhaps after its hash has been
checked, and written to one. The hash is that of the text of the file.
-/

namespace UserAgent

/-- Why a rule set cannot be read from a file. -/
inductive LoadError where
  | missing (path : Path)
  | unreadable (error : FileError)
  | encoding (fault : Utf8.Fault)
  | hashMismatch (expected actual : String)
  | notJson
  /-- The text has an integer with more digits than are converted. -/
  | tooManyDigits (count : Nat)
  | failed (failure : Failure)
deriving DecidableEq

/-- The words for why a rule set cannot be read. -/
def LoadError.message : LoadError → String
  | missing path => "Rule file not found: " ++ path.toText
  | unreadable error => error.message
  | encoding fault => fault.message
  | hashMismatch expected actual =>
    "Rule file hash mismatch. Expected: " ++ expected ++ ", Got: " ++ actual
  | notJson => "Invalid JSON in rule file: " ++ Json.ReadError.malformed.message
  | tooManyDigits count => numeralLimitMessage count
  | failed failure => failure.message

/-- How a rule set is read from a file. -/
structure LoadOptions where
  vocabulary : Vocabulary := {}
  /-- Whether the hash of the file is computed. -/
  verifyHash : Bool := false
  /-- The hash that a file has to have if it is computed. -/
  expectedHash : Option String := none

namespace RuleSet

/-! ### Reading -/

/-- The hash of a text. -/
def textHash (text : String) : String :=
  Sha256.hexDigest (Utf8.encode text)

/-- The hash that is recorded for a text. It has to be the expected one; an empty expectation holds of
every text. -/
def checkHash (options : LoadOptions) (text : String) : Except LoadError (Option String) :=
  if options.verifyHash then
    let actual := textHash text
    match options.expectedHash with
    | some expected =>
      if expected.isEmpty || expected = actual then .ok (some actual)
      else .error (.hashMismatch expected actual)
    | none => .ok (some actual)
  else .ok none

/-- The JSON that a text holds. -/
def readTable (text : String) : Except LoadError Json :=
  match Json.parse text with
  | .ok table => .ok table
  | .error (.tooManyDigits count) => .error (.tooManyDigits count)
  | .error _ => .error .notJson

/-- The note that a rule set has been read from a file. -/
def loadedMessage (r : RuleSet) (path : Path) : String :=
  "Loaded " ++ toString r.count ++ " rules from " ++ path.toText ++
    " (version: " ++ r.version ++ ")"

variable [CharacterNames]

/-- The rule set that the text of a file stands for. -/
def ofText (options : LoadOptions) (path : Path) (text : String) :
    Logged (Except LoadError RuleSet) :=
  match checkHash options text, readTable text with
  | .error e, _ => ⟨.error e, []⟩
  | .ok _, .error e => ⟨.error e, []⟩
  | .ok fileHash, .ok table => do
    match ← ofTable options.vocabulary table (some path.toText) fileHash with
    | .error failure => return .error (.failed failure)
    | .ok rules =>
      Logged.note .info (rules.loadedMessage path)
      return .ok rules

variable {m : Type → Type} [Monad m] [Host m]

/-- Read a rule set from a file. -/
def load (options : LoadOptions) (path : Path) : m (Logged (Except LoadError RuleSet)) := do
  if ← Host.pathExists path then
    match ← (Host.readText path).run with
    | .ok text => return ofText options path text
    | .error (.file e) => return ⟨.error (.unreadable e), []⟩
    | .error (.encoding fault) => return ⟨.error (.encoding fault), []⟩
  else return ⟨.error (.missing path), []⟩

/-! ### Writing -/

/-- Write a rule set to a file, whose directory is made if it does not exist. -/
def save (r : RuleSet) (path : Path) : m (Except FileError Unit) := do
  match ← Host.makeDirectories path.parent with
  | .error e => return .error e
  | .ok () => Host.writeText path (r.exportText (← Host.time))

end RuleSet

end UserAgent
