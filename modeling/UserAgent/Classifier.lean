import UserAgent.Config
import UserAgent.RuleSet.BuiltIn
import UserAgent.RuleSet.File

/-!
# Classifiers

A classifier holds one user agent and the rule set to classify it with. Which rule set that is, and
where the user agent comes from if none is given, a configuration may say.
-/

namespace UserAgent

/-- A user agent and the rules to classify it with. -/
structure Classifier where
  userAgent : String
  rules : RuleSet

namespace Classifier

/-- The record of a category. -/
def record (c : Classifier) (category : Category) : Logged Record :=
  c.rules.record c.userAgent category

/-- The description of the user agent in every category. -/
def classify (c : Classifier) : Logged Classification :=
  c.rules.classify c.userAgent

end Classifier

/-! ### Configured rules -/

/-- Why a classifier cannot be set up. -/
inductive SetupError where
  | config (error : Config.Error)
  | load (error : LoadError)
deriving DecidableEq

/-- The words for why a classifier cannot be set up. -/
def SetupError.message : SetupError → String
  | config error => error.message
  | load error => error.message

namespace Config

variable {m : Type → Type} [Monad m] [Host m]

/-- The environment variable that names the home directory. -/
def homeVariable : String := "HOME"

/-- How the configured rule table is read. -/
def loadOptions (c : Config) : LoadOptions where
  vocabulary := { strict := c.parser.strictTransforms.isTruthy }
  verifyHash := c.parser.verifyHash.isTruthy
  expectedHash :=
    if c.parser.expectedHash.isTruthy then some c.parser.expectedHash.toText else none

variable [CharacterNames]

/-- The rule set that is configured; nothing stands for the built-in one. -/
def ownRules (c : Config) : m (Logged (Except SetupError (Option RuleSet))) := do
  match c.rulesPath? (← Host.lookupVariable homeVariable) with
  | .error e => return ⟨.error (.config e), []⟩
  | .ok (some path) =>
    return (← RuleSet.load c.loadOptions path).map fun r => (r.map some).mapError .load
  | .ok none =>
    if c.loadOptions.vocabulary.strict then
      return RuleSet.builtInStrictly.map fun r =>
        (r.map some).mapError fun failure => .load (.failed failure)
    else return ⟨.ok none, []⟩

/-- A user agent, or the value of the configured environment variable if none is given. -/
def ambientUserAgent (c : Config) (userAgent : Option String) : m (Except Error String) := do
  match userAgent, c.parser.userAgentVariable with
  | some userAgent, _ => return .ok userAgent
  | none, .str name => return .ok ((← Host.lookupVariable name).getD "")
  | none, _ => return .error .wrongType

/-- The classifier that is configured. -/
def classifier (c : Config) (userAgent : Option String) :
    m (Logged (Except SetupError Classifier)) := do
  let rules ← c.ownRules
  match rules.value with
  | .error e => return ⟨.error e, rules.log⟩
  | .ok own =>
    match ← c.ambientUserAgent userAgent with
    | .error e => return ⟨.error (.config e), rules.log⟩
    | .ok userAgent => return ⟨.ok ⟨userAgent, own.getD .builtIn⟩, rules.log⟩

end Config

end UserAgent
