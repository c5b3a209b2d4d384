import UserAgent.Classifier
import UserAgent.CommandLine.Invocation
import UserAgent.CommandLine.Journal
import UserAgent.Config.File
import UserAgent.Output.Format

/-!
# Running the program

The program reads its configuration, prepares its directories and carries out a command. A rule table
that cannot be used is reported, and nothing is printed or written in its place.
-/

namespace UserAgent.CommandLine

/-! ### Endings -/

/-- Why a command fails. -/
inductive RunError where
  | setup (error : SetupError)
  | file (error : FileError)
deriving DecidableEq

namespace RunError

/-- The report on a failed file operation: only on files that are missing. -/
def fileReport? (e : FileError) : Option String :=
  if e.cause = .notFound then some e.message else none

/-- The report on a failure, if it is one that the program reports. -/
def report? : RunError → Option String
  | file e => fileReport? e
  | setup (.load (.unreadable e)) => fileReport? e
  | setup (.load (.failed (.refused error))) => some ("Invalid rule set: " ++ error.message)
  | setup (.load (.failed .countTooLarge)) => none
  | setup (.load error) => some error.message
  | setup (.config _) => none

end RunError

/-- How a run of the program ends. -/
inductive Ending where
  /-- The arguments do not ask for a command that can be carried out. -/
  | stopped (reason : Stop)
  | exited (code : Nat)
  | misconfigured (error : Config.LoadError)
  | failed (error : RunError)
deriving DecidableEq

/-- The exit code for success. -/
def exitOk : Nat := 0

/-- The exit code for a configuration that cannot be used. -/
def exitUsage : Nat := 1

/-- The exit code for rules that cannot be used. -/
def exitRules : Nat := 2

/-! ### Texts -/

/-- The name of the program and its version. -/
def versionText : String := "uaparse 0.1.0"

/-- The help on the program. -/
def helpText : String :=
  "usage: uaparse [-h] [--version] [--config CONFIG] [--verbose] [--quiet] " ++
    "\x7bparse,rules,config\x7d ...\n" ++
  "\n" ++
  "Classify user agent strings into browser, engine, OS, CPU and device\n" ++
  "\n" ++
  "commands:\n" ++
  "  parse    Classify user agent strings\n" ++
  "  rules    Show rule set information\n" ++
  "  config   Manage configuration"

variable {m : Type → Type} [Monad m] [Host m] [CharacterNames]

/-- Print what is shown if the arguments are not carried out. -/
def announce : Stop → m Unit
  | .help => Host.printLine helpText
  | .version => Host.printLine versionText
  | .misuse => Host.printErrorLine (Text.before '\n' helpText)

/-! ### Rules -/

/-- Note the entries of a result, which may be a failure. -/
def attempt {ε α : Type} (journal : Journal) (wrap : ε → RunError) (x : Logged (Except ε α)) :
    ExceptT RunError m α := do
  match ← ExceptT.lift (journal.follow x) with
  | .ok value => return value
  | .error e => throw (wrap e)

/-- The rule set in a file that the arguments name, or the configured one. -/
def chooseRules (journal : Journal) (config : Config) (path : Option Path) :
    ExceptT RunError m RuleSet := do
  match path with
  | some path =>
    match path.expandHome? (← ExceptT.lift (Host.lookupVariable Config.homeVariable)) with
    | some path =>
      let options : LoadOptions :=
        { vocabulary := { strict := config.parser.strictTransforms.isTruthy } }
      attempt journal (.setup ∘ .load) (← ExceptT.lift (RuleSet.load options path))
    | none => throw (.setup (.config .unknownHome))
  | none =>
    let own ← attempt journal .setup (← ExceptT.lift config.ownRules)
    return own.getD .builtIn

/-! ### Classification -/

/-- The lines of an input that are not blank. Only a line feed ends a line; carriage returns before it
do not belong to the line. -/
def inputLines (input : String) : List String :=
  ((Text.splitOn '\n' input).map (Text.dropEndWhile (· == '\r'))).filter Text.hasContent

/-- The user agents that are asked for; nothing stands for that of the environment. -/
def collect (settings : ParseCommand) : m (List (Option String)) := do
  let lines ← if settings.readsInput then inputLines <$> Host.readInput else pure []
  match settings.userAgents ++ lines with
  | [] => return [none]
  | userAgents => return userAgents.map some

/-- Classify a user agent and note the result. -/
def classifyOne (journal : Journal) (config : Config) (rules : RuleSet)
    (userAgent : Option String) : ExceptT RunError m Classification := do
  match ← ExceptT.lift (config.ambientUserAgent userAgent) with
  | .error e => throw (.setup (.config e))
  | .ok userAgent =>
    ExceptT.lift do
      let start ← Host.nanoseconds
      let result ← journal.follow (rules.classify userAgent)
      journal.writeResult result ((← Host.nanoseconds) - start)
      return result

/-- The text of results: one alone, or a list of several. -/
def resultsText (formatter : Formatter) (categories : List Category) :
    List Classification → String
  | [r] => formatter.result categories r
  | rs => formatter.resultList categories rs

/-- The note on how many user agents have been classified. -/
def classifiedEntry (count : Nat) : LogEntry :=
  ⟨.info, "Classified " ++ toString count ++ " user agent(s)"⟩

/-- The form of output that is asked for. -/
def formatter (config : Config) (asJson colors showEmpty : Bool) : m Formatter := do
  return .choose (asJson || config.output.format = .json)
    (config.output.color.isTruthy && colors) showEmpty (← Host.isTerminal)

/-- Classify user agents and show the results, or write them to a file. -/
def runParse (journal : Journal) (config : Config) (settings : ParseCommand) :
    ExceptT RunError m Nat := do
  let rules ← chooseRules journal config settings.rules
  let results ← (← ExceptT.lift (collect settings)).mapM (classifyOne journal config rules)
  ExceptT.lift (journal.write (classifiedEntry results.length))
  let formatter ← ExceptT.lift (formatter config settings.json settings.output.isNone
    config.output.showEmpty.isTruthy)
  let text := resultsText formatter settings.categories results
  match settings.output with
  | some path =>
    match ← ExceptT.lift (Host.writeText path (text ++ "\n")) with
    | .error e => throw (.file e)
    | .ok () => ExceptT.lift (Host.printLine ("Results written to " ++ path.toText))
  | none => ExceptT.lift (Host.printLine text)
  return exitOk

/-! ### Information and configuration -/

/-- Show information on a rule set, and write it to a file if that is asked for. -/
def runRules (journal : Journal) (config : Config) (settings : RulesCommand) :
    ExceptT RunError m Nat := do
  let rules ← chooseRules journal config settings.rules
  if let some path := settings.exportTo then
    match ← ExceptT.lift (rules.save path) with
    | .error e => throw (.file e)
    | .ok () => ExceptT.lift (Host.printLine ("Rules exported to " ++ path.toText))
  let formatter ← ExceptT.lift (formatter config settings.json true false)
  ExceptT.lift (Host.printLine (formatter.info rules.info))
  return exitOk

/-- Write or show the configuration. -/
def runConfig (config : Config) (path : Option Path) (settings : ConfigCommand) :
    ExceptT RunError m Nat := do
  if settings.init then
    match ← ExceptT.lift (config.save path) with
    | .error e => throw (.file e)
    | .ok path =>
      ExceptT.lift (Host.printLine ("Configuration saved to " ++ path.toText))
      return exitOk
  else if settings.display then
    ExceptT.lift (Host.printLine config.toText)
    return exitOk
  else
    ExceptT.lift (Host.printLine "Use --init to create config or --show to display current config")
    return exitUsage

/-! ### The program -/

/-- Carry out a command, or show the help if there is none. -/
def runCommand (journal : Journal) (config : Config) (invocation : Invocation) :
    ExceptT RunError m Nat :=
  match invocation.command with
  | some (.parse settings) => runParse journal config settings
  | some (.rules settings) => runRules journal config settings
  | some (.config settings) => runConfig config invocation.config settings
  | none => do
    ExceptT.lift (Host.printLine helpText)
    return exitOk

/-- Make the files for notes and all directories of a configuration. -/
def prepare (journal : Journal) (config : Config) : m (Except FileError Unit) := do
  match ← journal.prepare with
  | .error e => return .error e
  | .ok () => makeAll config.directories
where
  /-- Make directories one after the other. -/
  makeAll : List Path → m (Except FileError Unit)
    | [] => return .ok ()
    | path :: rest => do
      match ← Host.makeDirectories path with
      | .error e => return .error e
      | .ok () => makeAll rest

/-- Carry out what was asked for under a configuration. -/
def runConfigured (invocation : Invocation) (config : Config) : m Ending := do
  let journal : Journal := ⟨config.logsDirectory, levelOf invocation.verbosity, invocation.quiet⟩
  match ← prepare journal config with
  | .error e => return .failed (.file e)
  | .ok () =>
    match ← (runCommand journal config invocation).run with
    | .ok code => return .exited code
    | .error e =>
      match e.report? with
      | some message =>
        journal.write ⟨.error, message⟩
        return .exited exitRules
      | none => return .failed e

/-- Run the program on its arguments, given its directory if the configuration names none. -/
def run (directory : Path) (arguments : List String) : m Ending := do
  match Invocation.ofArguments arguments with
  | .error stop =>
    announce stop
    return .stopped stop
  | .ok invocation =>
    match ← Config.load directory invocation.config with
    | .ok config => runConfigured invocation config
    | .error e =>
      if e.isReported then
        Host.printErrorLine ("Invalid configuration: " ++ e.message)
        return .exited exitUsage
      else return .misconfigured e

end UserAgent.CommandLine
