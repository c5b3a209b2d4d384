import UserAgent.Json.Display
import UserAgent.Path

/-!
# Configurations

A configuration names the directories of the program and holds settings for reading rules and for
output. It is written as a JSON object. The settings are kept as the object gives them and interpreted
where they are used; only the directories and the output format are checked when it is read.
-/

namespace UserAgent

/-! ### Settings -/

/-- The forms of output. -/
inductive OutputFormat where
  | text
  | json
deriving DecidableEq, Repr

namespace OutputFormat

/-- The name of a form of output. -/
def name : OutputFormat → String
  | text => "text"
  | json => "json"

/-- The form of output with a name. -/
def ofJson? : Json → Option OutputFormat
  | .str "text" => some text
  | .str "json" => some json
  | _ => none

/-- The words for a value that names no form of output. -/
def unknownMessage (value : Json) : String :=
  "Invalid output format '" ++ value.toText ++ "', must be one of ('text', 'json')"

end OutputFormat

/-- Settings for reading rules. -/
structure ParserSettings where
  /-- The file of the rule table; the built-in one if it is empty. -/
  rulesFile : Json := .str ""
  strictTransforms : Json := .bool false
  verifyHash : Json := .bool false
  expectedHash : Json := .str ""
  /-- The environment variable that holds the user agent if none is given. -/
  userAgentVariable : Json := .str "HTTP_USER_AGENT"
deriving DecidableEq

/-- Settings for output. -/
structure OutputSettings where
  format : OutputFormat := .text
  color : Json := .bool true
  /-- Whether fields are shown that hold no value. -/
  showEmpty : Json := .bool false
deriving DecidableEq

/-- A configuration. -/
structure Config where
  configDirectory : Path
  rulesDirectory : Path
  logsDirectory : Path
  parser : ParserSettings := {}
  output : OutputSettings := {}
deriving DecidableEq

namespace Config

/-- The name of the configuration file. -/
def fileName : String := "config.json"

/-- The name of the directory for rules. -/
def rulesName : String := "rules"

/-- The name of the directory for logs. -/
def logsName : String := "logs"

/-- The environment variable that names the directory of the program. -/
def directoryVariable : String := "UACLASSIFY_HOME"

/-- The directory of the program if nothing else is asked for. -/
def directoryDefault : String := "~/.uaclassify"

/-- A configuration with directories that are seen from the directory of the program. -/
def ofDirectories (directory rules logs : Path) (parser : ParserSettings)
    (output : OutputSettings) : Config :=
  ⟨directory, directory.below rules, directory.below logs, parser, output⟩

/-- The configuration in which nothing is set. -/
def default (directory : Path) : Config :=
  ofDirectories directory (.ofText rulesName) (.ofText logsName) {} {}

/-! ### Errors -/

/-- Why a configuration is refused. -/
inductive Error where
  /-- The settings of a section are not an object. -/
  | notObject
  /-- A value is not of a type that can be used in its place. -/
  | wrongType
  | unknownFormat (value : Json)
  /-- A path begins with the home directory of a user who is not known. -/
  | unknownHome
deriving DecidableEq

/-- The words for why a configuration is refused. -/
def Error.message : Error → String
  | notObject => "a section of the configuration is not an object"
  | wrongType => "a value of the configuration has the wrong type"
  | unknownFormat value => OutputFormat.unknownMessage value
  | unknownHome => "Could not determine home directory."

/-! ### Reading -/

/-- A member of a configuration. Texts and lists that do not have the name in them lack the member;
all else that is not an object is refused. -/
def member? (key : String) : Json → Except Error (Option Json)
  | .obj members => .ok (Assoc.get? key members)
  | .arr items => if items.contains (.str key) then .error .wrongType else .ok none
  | .str s => if Text.occursIn key.toList s.toList then .error .wrongType else .ok none
  | _ => .error .wrongType

/-- The path of a member. -/
def path? (key : String) (data : Json) : Except Error (Option Path) := do
  match ← member? key data with
  | some (.str s) => return some (.ofText s)
  | some _ => .error .wrongType
  | none => return none

/-- The settings of a section. -/
def section? (key : String) (data : Json) : Except Error (List (String × Json)) := do
  match ← member? key data with
  | some (.obj settings) => return settings
  | some _ => .error .notObject
  | none => return []

/-- A setting, or its default. -/
def setting (key : String) (settings : List (String × Json)) (default : Json) : Json :=
  (Assoc.get? key settings).getD default

/-- The settings for reading rules. -/
def parserSettings (settings : List (String × Json)) : ParserSettings :=
  let default : ParserSettings := {}
  { rulesFile := setting "rules_file" settings default.rulesFile
    strictTransforms := setting "strict_transforms" settings default.strictTransforms
    verifyHash := setting "verify_hash" settings default.verifyHash
    expectedHash := setting "expected_hash" settings default.expectedHash
    userAgentVariable := setting "user_agent_env_var" settings default.userAgentVariable }

/-- The settings for output. -/
def outputSettings (settings : List (String × Json)) : Except Error OutputSettings :=
  let default : OutputSettings := {}
  let format := setting "format" settings (.str default.format.name)
  match OutputFormat.ofJson? format with
  | some format => .ok {
      format
      color := setting "color" settings default.color
      showEmpty := setting "show_empty" settings default.showEmpty }
  | none => .error (.unknownFormat format)

/-- Read a configuration, given the directory of the program if it does not name one. -/
def ofJson (directory : Path) (data : Json) : Except Error Config := do
  let configDirectory ← path? "config_dir" data
  let parser ← section? "parser" data
  let output ← section? "output" data
  let rules ← path? "rules_dir" data
  let logs ← path? "logs_dir" data
  return ofDirectories (configDirectory.getD directory) (rules.getD (.ofText rulesName))
    (logs.getD (.ofText logsName)) (parserSettings parser) (← outputSettings output)

/-! ### Writing -/

/-- A configuration as a JSON object. -/
def toJson (c : Config) : Json :=
  .obj [
    ("config_dir", .str c.configDirectory.toText),
    ("rules_dir", .str c.rulesDirectory.toText),
    ("logs_dir", .str c.logsDirectory.toText),
    ("parser", .obj [
      ("rules_file", c.parser.rulesFile),
      ("strict_transforms", c.parser.strictTransforms),
      ("verify_hash", c.parser.verifyHash),
      ("expected_hash", c.parser.expectedHash),
      ("user_agent_env_var", c.parser.userAgentVariable)]),
    ("output", .obj [
      ("format", .str c.output.format.name),
      ("color", c.output.color),
      ("show_empty", c.output.showEmpty)])]

/-! ### Paths -/

/-- The file of the rule table, if one is configured. -/
def rulesPath? (c : Config) (home : Option String) : Except Error (Option Path) :=
  if c.parser.rulesFile.isTruthy then
    match c.parser.rulesFile with
    | .str s =>
      match (Path.ofText s).expandHome? home with
      | some path => .ok (some (c.rulesDirectory.below path))
      | none => .error .unknownHome
    | _ => .error .wrongType
  else .ok none

/-- The directories that have to exist. -/
def directories (c : Config) : List Path :=
  [c.configDirectory, c.rulesDirectory, c.logsDirectory]

end Config

end UserAgent
