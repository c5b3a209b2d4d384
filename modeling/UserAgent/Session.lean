import UserAgent.Classifier
import UserAgent.Host.Machine

/-!
# Sessions

In a session rule sets and classifiers are made, kept under names and used, while the variables and
files of the machine change. A step that fails changes nothing.
-/

namespace UserAgent

/-- A rule set with a number that tells it from all others, even from equal ones. -/
structure NumberedRules where
  number : Nat
  rules : RuleSet

/-- The built-in rule set, which is made once. -/
def NumberedRules.builtIn : NumberedRules :=
  ⟨0, .builtIn⟩

/-- A user agent and the numbered rule set to classify it with. -/
structure NumberedClassifier where
  userAgent : String
  source : NumberedRules

/-- The classifier without the number of its rule set. -/
def NumberedClassifier.classifier (c : NumberedClassifier) : Classifier :=
  ⟨c.userAgent, c.source.rules⟩

/-- The state of a session. -/
structure Session where
  machine : Machine := {}
  /-- The directory of the program if a configuration names none. -/
  directory : Path
  ruleSets : Assoc String NumberedRules := []
  classifiers : Assoc String NumberedClassifier := []
  /-- How many rule sets have been made. -/
  made : Nat := 0

namespace Session

/-! ### Steps -/

/-- A step of a session. -/
inductive Step where
  | setVariable (name : String) (value : Option String)
  | putFile (path : Path) (content : List UInt8)
  | showFile (path : Path)
  /-- Make a rule set from a rule table. -/
  | compileRules (name : String) (vocabulary : Vocabulary) (table : Json)
  | loadRules (name : String) (options : LoadOptions) (path : Path)
  | nameBuiltIn (name : String)
  | saveRules (name : String) (path : Path)
  /-- Make a classifier. Without a user agent that of an environment variable is taken, and without
  the name of a rule set the built-in one. -/
  | makeClassifier (name : String) (userAgent rules : Option String) (variableName : String)
  /-- Make the classifier of a configuration. -/
  | configureClassifier (name : String) (userAgent : Option String) (config : Json)
  | record (name : String) (category : Category)
  | classify (name : String)
  | info (name : String)
  /-- Change a field of a record that has been given out. -/
  | changeRecord (name : String) (category : Category) (field value : String)
  /-- Compare the rule sets of two classifiers. -/
  | sameRules (name other : String)

/-- The result of a step. -/
inductive Answer where
  | done
  | text (text : String)
  | info (info : VersionInfo)
  | count (count : Nat)
  | configured (userAgent : String) (info : VersionInfo)
  | record (record : Record)
  | classification (result : Classification)
  | records (changed fresh : Record)
  | same (same : Bool)

/-- Why a step fails. -/
inductive StepError where
  | unknownName (name : String)
  | failed (failure : Failure)
  | setup (error : SetupError)
  | file (error : FileError)
  | encoding (fault : Utf8.Fault)
deriving DecidableEq

/-! ### Names -/

/-- The rule set with a name. -/
def findRules (s : Session) (name : String) : Except StepError NumberedRules :=
  match Assoc.get? name s.ruleSets with
  | some rules => .ok rules
  | none => .error (.unknownName name)

/-- The classifier with a name. -/
def findClassifier (s : Session) (name : String) : Except StepError NumberedClassifier :=
  match Assoc.get? name s.classifiers with
  | some c => .ok c
  | none => .error (.unknownName name)

/-- Keep a rule set that has just been made. -/
def addRules (s : Session) (name : String) (rules : RuleSet) : Session :=
  { s with
    ruleSets := Assoc.insert name ⟨s.made + 1, rules⟩ s.ruleSets
    made := s.made + 1 }

/-- Keep a classifier. -/
def addClassifier (s : Session) (name : String) (c : NumberedClassifier) : Session :=
  { s with classifiers := Assoc.insert name c s.classifiers }

/-! ### Effects -/

/-- Set an environment variable, or remove it. -/
def setVariable (s : Session) (name : String) (value : Option String) : Session :=
  let others := s.machine.environment.filter (·.1 != name)
  let environment := match value with
    | some value => Assoc.insert name value s.machine.environment
    | none => others
  { s with machine := { s.machine with environment } }

/-- Run an operation of the machine. -/
def perform {α : Type} (s : Session) (operation : StateM Machine α) : α × Session :=
  let (value, machine) := operation.run s.machine
  (value, { s with machine })

/-- Write a file in a directory that is made if it does not exist. -/
def putFile (path : Path) (content : List UInt8) : StateM Machine (Except FileError Unit) := do
  match ← Host.makeDirectories path.parent with
  | .error e => return .error e
  | .ok () => Host.writeBytes path content

/-- The rule set for a classifier that is configured. One that is not built in has just been made. -/
def configuredRules (s : Session) (own : Option RuleSet) : NumberedRules × Session :=
  match own with
  | some rules => (⟨s.made + 1, rules⟩, { s with made := s.made + 1 })
  | none => (.builtIn, s)

variable [CharacterNames]

/-- Make the classifier of a configuration. -/
def configure (s : Session) (name : String) (userAgent : Option String) (config : Config) :
    Except StepError (Answer × Session) := do
  let (own, s) := s.perform config.ownRules
  let (source, s) := s.configuredRules (← own.value.mapError .setup)
  let (userAgent, s) := s.perform (config.ambientUserAgent userAgent)
  let userAgent ← userAgent.mapError fun e => .setup (.config e)
  return (.configured userAgent source.rules.info, s.addClassifier name ⟨userAgent, source⟩)

/-- Take a step. -/
def step (s : Session) : Step → Except StepError (Answer × Session)
  | .setVariable name value => .ok (.done, s.setVariable name value)
  | .putFile path content =>
    match s.perform (Session.putFile path content) with
    | (.ok (), s) => .ok (.done, s)
    | (.error e, _) => .error (.file e)
  | .showFile path =>
    match s.machine.files.read path with
    | .error e => .error (.file e)
    | .ok content =>
      match Utf8.decode content with
      | .ok text => .ok (.text text, s)
      | .error fault => .error (.encoding fault)
  | .compileRules name vocabulary table => do
    let rules ← (RuleSet.ofTable vocabulary table).value.mapError .failed
    return (.info rules.info, s.addRules name rules)
  | .loadRules name options path => do
    let (loaded, s) := s.perform (RuleSet.load options path)
    let rules ← loaded.value.mapError fun e => .setup (.load e)
    return (.info rules.info, s.addRules name rules)
  | .nameBuiltIn name =>
    .ok (.count RuleSet.builtIn.count,
      { s with ruleSets := Assoc.insert name .builtIn s.ruleSets })
  | .saveRules name path => do
    let (saved, s) := s.perform ((← s.findRules name).rules.save path)
    let () ← saved.mapError .file
    return (.done, s)
  | .makeClassifier name userAgent rules variableName => do
    let source ← match rules with
      | some rules => s.findRules rules
      | none => pure .builtIn
    let userAgent := userAgent.getD ((Assoc.get? variableName s.machine.environment).getD "")
    return (.text userAgent, s.addClassifier name ⟨userAgent, source⟩)
  | .configureClassifier name userAgent config => do
    let config ← (Config.ofJson s.directory config).mapError fun e => .setup (.config e)
    s.configure name userAgent config
  | .record name category => do
    return (.record ((← s.findClassifier name).classifier.record category).value, s)
  | .classify name => do
    return (.classification (← s.findClassifier name).classifier.classify.value, s)
  | .info name => do
    return (.info (← s.findClassifier name).source.rules.info, s)
  | .changeRecord name category field value => do
    let record := ((← s.findClassifier name).classifier.record category).value
    return (.records (Assoc.insert field value record) record, s)
  | .sameRules name other => do
    let c ← s.findClassifier name
    let d ← s.findClassifier other
    return (.same (c.source.number == d.source.number), s)

/-- Take steps one after the other. One that fails leaves the session as it is. -/
def run (s : Session) : List Step → List (Except StepError Answer) × Session
  | [] => ([], s)
  | step :: steps =>
    match s.step step with
    | .ok (answer, s) =>
      let (answers, s) := run s steps
      (.ok answer :: answers, s)
    | .error e =>
      let (answers, s) := run s steps
      (.error e :: answers, s)

end Session

end UserAgent
