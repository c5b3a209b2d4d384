import UserAgent.Json.Reader
import UserAgent.Rule
import UserAgent.RuleSet

/-!
# Validation of rule tables

A rule table is loaded only if nothing is wrong with it, and the first fault that is found ends the
loading. Validation finds all faults, and it is stricter: a version has to be given, keys have to be
spelled as they are written, no literal may look like a transform, and no rule may set a field twice.
-/

namespace UserAgent

/-! ### Findings -/

/-- A fault of a rule table. -/
inductive Finding where
  | notJson
  | tableNotObject
  | missingVersion
  | unknownCategory (key : String)
  | rulesNotList (category : String)
  /-- The rules of a category have none of the two layouts. -/
  | badLayout (error : RuleError)
  /-- The patterns of a rule, or its specifications as a whole, are refused. -/
  | badRule (category : String) (index : Nat) (error : RuleError)
  | badSpec (category : String) (index position : Nat) (error : RuleError)
  | duplicateField (category : String) (index position : Nat) (field : String)
deriving DecidableEq

namespace Finding

/-- The names of the categories in alphabetical order. -/
def sortedCategoryNames : List String :=
  (Category.all.map Category.name).mergeSort fun a b => !(b < a)

/-- The words before the fault of a specification. -/
def specLocation (category : String) (index position : Nat) : String :=
  RuleError.location category index ++ " spec " ++ toString position ++ ": "

/-- The words for a fault. -/
def message : Finding → String
  | notJson => "Invalid JSON: " ++ Json.ReadError.malformed.message
  | tableNotObject => "File must contain a JSON object keyed by category"
  | missingVersion => "Missing 'version' field in file metadata"
  | unknownCategory key =>
    "Unknown category '" ++ key ++ "', must be one of " ++
      (Json.ofTexts sortedCategoryNames).display
  | rulesNotList category => category ++ ": rules must be a list"
  | badLayout error => error.message
  | badRule category index error => (RuleError.atRule category index error).message
  | badSpec category index position error =>
    specLocation category index position ++ error.message
  | duplicateField category index position field =>
    specLocation category index position ++ "duplicate field '" ++ field ++ "'"

end Finding

/-- The number of rules in a table and its faults. -/
structure ValidationReport where
  count : Nat := 0
  findings : List Finding := []
deriving DecidableEq

/-- Why a rule table is not validated. -/
inductive ValidationError where
  /-- The text has an integer with more digits than are converted. -/
  | tooManyDigits (count : Nat)
  /-- A pattern fails in a way that is not a fault of the table. -/
  | failed (failure : Failure)
deriving DecidableEq

/-- The words for why a rule table is not validated. -/
def ValidationError.message : ValidationError → String
  | tooManyDigits count => numeralLimitMessage count
  | failed failure => failure.message

namespace Validation

/-- The value that is compiled, or why it is refused. Other failures end the validation. -/
def attempt {α : Type} : Compiled α → Except ValidationError (Except RuleError α)
  | .ok value => .ok (.ok value)
  | .error (.refused error) => .ok (.error error)
  | .error failure => .error (.failed failure)

/-! ### Rules -/

variable [CharacterNames]

/-- The faults of patterns. -/
def patternFindings (category : String) (index : Nat) :
    List Json → Except ValidationError (List Finding)
  | [] => .ok []
  | pattern :: rest => do
    match ← attempt (FieldSpec.compilePatternValue pattern) with
    | .ok _ => patternFindings category index rest
    | .error error => return .badRule category index error :: (← patternFindings category index rest)

/-- The faults of specifications from a position on, given the fields that are set before it. -/
def specFindings (category : String) (index : Nat) :
    (position : Nat) → (seen : List String) → List Json → Except ValidationError (List Finding)
  | _, _, [] => .ok []
  | position, seen, spec :: rest => do
    match ← attempt (FieldSpec.decode { strict := true } spec) with
    | .error error =>
      return .badSpec category index position error ::
        (← specFindings category index (position + 1) seen rest)
    | .ok field =>
      let findings ← specFindings category index (position + 1) (field.name :: seen) rest
      return if seen.contains field.name then
        .duplicateField category index position field.name :: findings
      else findings

/-- The faults of the patterns of a rule. -/
def patternsFindings (category : String) (index : Nat) (patterns : Json) :
    Except ValidationError (List Finding) :=
  match Rule.patternList patterns with
  | [] => .ok [.badRule category index .noPatterns]
  | patterns => patternFindings category index patterns

/-- The faults of the specifications of a rule. -/
def specsFindings (category : String) (index : Nat) : Json → Except ValidationError (List Finding)
  | .arr specs => specFindings category index 0 [] specs
  | _ => .ok [.badRule category index .specsNotList]

/-- The faults of a rule. -/
def ruleFindings (category : String) (index : Nat) (patterns specs : Json) :
    Except ValidationError (List Finding) := do
  return (← patternsFindings category index patterns) ++ (← specsFindings category index specs)

/-- The faults of rules of which the first one has an index. -/
def rulesFindings (category : String) :
    (index : Nat) → List (Json × Json) → Except ValidationError (List Finding)
  | _, [] => .ok []
  | index, (patterns, specs) :: rest => do
    return (← ruleFindings category index patterns specs) ++
      (← rulesFindings category (index + 1) rest)

/-! ### Tables -/

/-- The report on the rules of a category. -/
def categoryReport (category : String) : Json → Except ValidationError ValidationReport
  | .arr entries => do
    match ← attempt (RuleGroup.split category entries) with
    | .ok pairs => return ⟨pairs.length, ← rulesFindings category 0 pairs⟩
    | .error error => return ⟨0, [.badLayout error]⟩
  | _ => .ok ⟨0, [.rulesNotList category]⟩

/-- The report on a member of a table. -/
def memberReport (key : String) (value : Json) : Except ValidationError ValidationReport :=
  if RuleSet.metadataKeys.contains key then .ok {}
  else if (Category.all.map Category.name).contains key then categoryReport key value
  else .ok ⟨0, [.unknownCategory key]⟩

/-- The report on the members of a table. -/
def membersReport : List (String × Json) → Except ValidationError ValidationReport
  | [] => .ok {}
  | (key, value) :: rest => do
    let first ← memberReport key value
    let others ← membersReport rest
    return ⟨first.count + others.count, first.findings ++ others.findings⟩

/-- The report on a table. -/
def tableReport : Json → Except ValidationError ValidationReport
  | .obj members => do
    let report ← membersReport members
    return if Assoc.contains "version" members then report
      else { report with findings := .missingVersion :: report.findings }
  | _ => .ok ⟨0, [.tableNotObject]⟩

/-- The report on the text of a file. -/
def textReport (text : String) : Except ValidationError ValidationReport :=
  match Json.parse text with
  | .ok table => tableReport table
  | .error (.tooManyDigits count) => .error (.tooManyDigits count)
  | .error _ => .ok ⟨0, [.notJson]⟩

end Validation

end UserAgent
