import UserAgent.Decimal.Limit
import UserAgent.Json.Display
import UserAgent.Regex.Fault

/-!
# Errors of rule tables

Why a rule table is refused. A failure that is not one of the table's own errors, such as a
repetition count that is out of range, is kept apart.
-/

namespace UserAgent

/-- Why a rule table, or a part of one, is refused. -/
inductive RuleError where
  /-- The table is not an object. -/
  | tableNotObject (typeName : String)
  /-- The rules of a category are not a list. -/
  | rulesNotList (category typeName : String)
  /-- A flat list of rules lacks the field specifications of the last one. -/
  | oddEntries (category : String) (count : Nat)
  /-- An entry of a list of rules is not a rule. -/
  | notPair (category : String) (index : Nat)
  | noPatterns
  | specsNotList
  | patternNotText (typeName : String)
  | unsupportedFlag (letter : Char) (pattern : String)
  | malformedPattern (pattern : String)
  | malformedTemplate (template : String)
  | unknownGroupName (template name : String)
  | emptyFieldName
  /-- The first element of a field specification is empty. -/
  | emptyFirstElement (spec : List Json)
  | specNotList (typeName : String)
  | badArity (spec : List Json)
  | elementNotText (typeName : String) (spec : List Json)
  | nearMiss (field token registered : String)
  | unknownMapping (field table : String)
  /-- The words on the transform are those of the registry. -/
  | unknownTransform (field words : String)
  /-- The error of one rule of a category. -/
  | atRule (category : String) (index : Nat) (error : RuleError)
deriving DecidableEq

namespace RuleError

/-- The words before the error of a rule. -/
def location (category : String) (index : Nat) : String :=
  category ++ "[" ++ toString index ++ "]"

/-- A list as messages show it. -/
def shown (spec : List Json) : String :=
  (Json.arr spec).display

/-- The words for an error. -/
def message : RuleError → String
  | tableNotObject typeName =>
    "Rule table must be an object keyed by category, got " ++ typeName
  | rulesNotList category typeName => category ++ ": rules must be a list, got " ++ typeName
  | oddEntries category count =>
    category ++ ": flat rule list must alternate patterns and field specs (got " ++
      toString count ++ " entries)"
  | notPair category index =>
    location category index ++ ": rule must be a [patterns, field_specs] pair"
  | noPatterns => "patterns must be a non-empty list"
  | specsNotList => "field specs must be a list"
  | patternNotText typeName => "Pattern must be a string, got " ++ typeName
  | unsupportedFlag letter pattern =>
    "Unsupported flag '" ++ String.ofList [letter] ++ "' in pattern " ++ Text.quoted pattern
  | malformedPattern pattern =>
    "Invalid regex " ++ Text.quoted pattern ++ ": " ++ Regex.grammarMessage
  | malformedTemplate template =>
    "Invalid replacement template " ++ Text.quoted template ++ ": " ++ Regex.grammarMessage
  | unknownGroupName template name =>
    "Invalid replacement template " ++ Text.quoted template ++ ": unknown group name " ++
      Text.quoted name
  | emptyFieldName => "Field spec has an empty field name"
  | emptyFirstElement spec => "Field spec has an empty field name: " ++ shown spec
  | specNotList typeName => "Field spec must be a string or list, got " ++ typeName
  | badArity spec =>
    "Field spec must have 2, 3 or 4 elements, got " ++ toString spec.length ++ ": " ++ shown spec
  | elementNotText typeName spec =>
    "Field spec elements must be strings, got " ++ typeName ++ " in " ++ shown spec
  | nearMiss field token registered =>
    "Field '" ++ field ++ "': token '" ++ token ++ "' looks like transform '" ++ registered ++ "'"
  | unknownMapping field table =>
    "Field '" ++ field ++ "': unknown mapping table '" ++ table ++ "'"
  | unknownTransform field words => "Field '" ++ field ++ "': " ++ words
  | atRule category index error => location category index ++ ": " ++ error.message

end RuleError

/-! ### Failures -/

/-- Why a rule table cannot be compiled. -/
inductive Failure where
  /-- The table is refused. -/
  | refused (error : RuleError)
  /-- A repetition count is out of range. -/
  | countTooLarge
  /-- A repetition count has more digits than are converted. -/
  | tooManyDigits (count : Nat)
  /-- A pattern asks for ASCII and for all characters. -/
  | conflictingFlags
deriving DecidableEq

/-- The failure that a fault of a pattern leads to, if the table is not refused for it. -/
def Regex.Fault.failure? : Regex.Fault → Option Failure
  | .countTooLarge => some .countTooLarge
  | .tooManyDigits count => some (.tooManyDigits count)
  | .conflictingFlags => some .conflictingFlags
  | _ => none

namespace Failure

/-- The words for a failure. -/
def message : Failure → String
  | refused error => error.message
  | countTooLarge => "the repetition number is too large"
  | tooManyDigits count => numeralLimitMessage count
  | conflictingFlags => "ASCII and UNICODE flags are incompatible"

/-- Name the rule in which a table is refused. -/
def atRule (category : String) (index : Nat) : Failure → Failure
  | refused error => refused (.atRule category index error)
  | other => other

end Failure

/-- The result of compiling a part of a rule table. -/
abbrev Compiled (α : Type u) := Except Failure α

/-- Refuse a part of a rule table. -/
def refuse {α : Type u} (error : RuleError) : Compiled α :=
  .error (.refused error)

end UserAgent
