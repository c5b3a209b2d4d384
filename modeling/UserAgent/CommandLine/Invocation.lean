import UserAgent.Category
import UserAgent.CommandLine.Options
import UserAgent.Path

/-!
# Invocations

What the arguments of the program ask for: one of its commands with its settings, and settings that
hold for all of them.
-/

namespace UserAgent.CommandLine

/-- The settings of the command that classifies user agents. -/
structure ParseCommand where
  userAgents : List String := []
  /-- Whether more user agents are read from standard input. -/
  readsInput : Bool := false
  categories : List Category := []
  json : Bool := false
  output : Option Path := none
  rules : Option Path := none
deriving DecidableEq

/-- The settings of the command that shows information on a rule set. -/
structure RulesCommand where
  rules : Option Path := none
  exportTo : Option Path := none
  json : Bool := false
deriving DecidableEq

/-- The settings of the command for the configuration. -/
structure ConfigCommand where
  init : Bool := false
  display : Bool := false
deriving DecidableEq

/-- A command. -/
inductive Command where
  | parse (settings : ParseCommand)
  | rules (settings : RulesCommand)
  | config (settings : ConfigCommand)
deriving DecidableEq

/-- What the program is asked for. -/
structure Invocation where
  config : Option Path := none
  verbosity : Nat := 0
  quiet : Bool := false
  command : Option Command := none
deriving DecidableEq

variable {σ : Type}

/-- An option that only changes settings. -/
def flagSwitch (spellings : List String) (set : σ → σ) : Switch σ :=
  ⟨spellings, .flag fun s => .ok (set s)⟩

/-- An option that takes a path. -/
def pathSwitch (spellings : List String) (set : Path → σ → σ) : Switch σ :=
  ⟨spellings, .value fun text s => .ok (set (.ofText text) s)⟩

/-- The option that asks for help. -/
def helpSwitch : Switch σ :=
  ⟨["-h", "--help"], .flag fun _ => .error .help⟩

/-! ### Commands -/

/-- The option that selects a category by its exact name. -/
def categorySwitch : Switch ParseCommand :=
  ⟨["--category", "-c"], .value fun text s =>
    match Category.all.find? (·.name == text) with
    | some c => .ok { s with categories := s.categories ++ [c] }
    | none => .error .misuse⟩

/-- The arguments of the command that classifies user agents. -/
def parseGrammar : Grammar ParseCommand where
  switches := [
    helpSwitch,
    flagSwitch ["--stdin"] fun s => { s with readsInput := true },
    categorySwitch,
    flagSwitch ["--json"] fun s => { s with json := true },
    pathSwitch ["--output", "-o"] fun path s => { s with output := some path },
    pathSwitch ["--rules"] fun path s => { s with rules := some path }]
  operands := .many fun texts s => { s with userAgents := texts }

/-- The arguments of the command that shows information on a rule set. -/
def rulesGrammar : Grammar RulesCommand where
  switches := [
    helpSwitch,
    pathSwitch ["--rules"] fun path s => { s with rules := some path },
    pathSwitch ["--export"] fun path s => { s with exportTo := some path },
    flagSwitch ["--json"] fun s => { s with json := true }]
  operands := .none

/-- The arguments of the command for the configuration. -/
def configGrammar : Grammar ConfigCommand where
  switches := [
    helpSwitch,
    flagSwitch ["--init"] fun s => { s with init := true },
    flagSwitch ["--show"] fun s => { s with display := true }]
  operands := .none

/-! ### The program -/

/-- Read a command. Tells whether some of its arguments are unknown. -/
def readCommand : List String → Except Stop (Command × Bool)
  | "parse" :: arguments => do
    let (settings, unknown) ← parseGrammar.read {} arguments
    return (.parse settings, unknown)
  | "rules" :: arguments => do
    let (settings, unknown) ← rulesGrammar.read {} arguments
    return (.rules settings, unknown)
  | "config" :: arguments => do
    let (settings, unknown) ← configGrammar.read {} arguments
    return (.config settings, unknown)
  | _ => .error .misuse

/-- The arguments of the program. -/
def programGrammar : Grammar Invocation where
  switches := [
    helpSwitch,
    ⟨["--version"], .flag fun _ => .error .version⟩,
    pathSwitch ["--config"] fun path s => { s with config := some path },
    flagSwitch ["--verbose", "-v"] fun s => { s with verbosity := s.verbosity + 1 },
    flagSwitch ["--quiet", "-q"] fun s => { s with quiet := true }]
  operands := .command fun texts s => do
    let (command, unknown) ← readCommand texts
    return ({ s with command := some command }, unknown)

/-- What arguments ask for. None of them may be unknown. -/
def Invocation.ofArguments (arguments : List String) : Except Stop Invocation := do
  let (invocation, unknown) ← programGrammar.read {} arguments
  if unknown then .error .misuse else return invocation

end UserAgent.CommandLine
