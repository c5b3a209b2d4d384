import UserAgent.FieldSpec
import UserAgent.Log

/-!
# Rules

A rule holds patterns, of which the first one that matches counts, and field specifications, which
take the captures of the match one after the other. Of the rules of a category the first one that
matches decides the whole record.
-/

namespace UserAgent

/-- Alternative patterns and what to make of a match. -/
structure Rule where
  patterns : List Pattern
  fields : List FieldSpec

/-- The rules of one category in order of precedence. -/
abbrev RuleGroup := List Rule

namespace Rule

/-! ### Matching -/

/-- The match of the first pattern that matches. -/
def search? (r : Rule) (text : Array Char) : Option Match :=
  r.patterns.findSome? (·.search? text)

/-- Set the fields of specifications, each with the capture at its place. Beyond the last capture
there is none. -/
def assign : List FieldSpec → (captures : List (Option String)) → Record → Record
  | [], _, record => record
  | spec :: specs, captures, record =>
    assign specs captures.tail
      (Assoc.insert spec.name (spec.resolve captures.head?.join) record)

/-- Set the fields of a rule from a match. -/
def extract (r : Rule) (m : Match) (record : Record) : Record :=
  assign r.fields m.groups record

/-! ### Compilation -/

/-- The patterns of a rule: a list, or one text. -/
def patternList : Json → List Json
  | .str p => [.str p]
  | .arr ps => ps
  | _ => []

/-- Compile a rule from its patterns and its specifications. -/
def compile [CharacterNames] (v : Vocabulary) (patterns specs : Json) : Compiled Rule :=
  match patternList patterns, specs with
  | [], _ => refuse .noPatterns
  | patterns, .arr specs => do
    let patterns ← patterns.mapM FieldSpec.compilePatternValue
    let fields ← specs.mapM (FieldSpec.decode v)
    return ⟨patterns, fields⟩
  | _, _ => refuse .specsNotList

/-- A rule as a rule table writes it. -/
def encode (r : Rule) : Json :=
  .arr [.ofTexts (r.patterns.map Pattern.text), .arr (r.fields.map FieldSpec.encode)]

end Rule

namespace RuleGroup

/-- The first rule that matches, with its index and its match. -/
def firstMatch? (group : RuleGroup) (text : Array Char) : Option (Nat × Rule × Match) :=
  go 0 group
where
  /-- Try rules of which the first one has an index. -/
  go (index : Nat) : List Rule → Option (Nat × Rule × Match)
    | [] => none
    | r :: rest =>
      match r.search? text with
      | some m => some (index, r, m)
      | none => go (index + 1) rest

/-- The record of a text: that of the first rule that matches, with a note of the match. -/
def classify (group : RuleGroup) (fields : List String) (text : String) : Logged Record :=
  match group.firstMatch? text.toList.toArray with
  | some (index, rule, m) =>
    ⟨rule.extract m (.ofFields fields),
      [⟨.debug, "Rule " ++ toString index ++ " matched " ++ Text.quoted m.matched⟩]⟩
  | none => ⟨.ofFields fields, []⟩

/-! ### Layouts -/

/-- Whether an entry is a rule: patterns as a text or a list, and a list of specifications. -/
def isPair : Json → Bool
  | .arr [.str _, .arr _] => true
  | .arr [.arr _, .arr _] => true
  | _ => false

/-- Split entries that each hold a rule. -/
def splitPaired (category : String) (index : Nat) : List Json → Compiled (List (Json × Json))
  | [] => .ok []
  | .arr [patterns, specs] :: rest => do
    return (patterns, specs) :: (← splitPaired category (index + 1) rest)
  | _ :: _ => refuse (.notPair category index)

/-- Split entries that hold patterns and specifications in turn. -/
def splitFlat : List Json → List (Json × Json)
  | patterns :: specs :: rest => (patterns, specs) :: splitFlat rest
  | _ => []

/-- Split the entries of a category into patterns and specifications. The first entry shows which of
the two layouts the list has. -/
def split (category : String) (entries : List Json) : Compiled (List (Json × Json)) :=
  match entries with
  | [] => .ok []
  | first :: _ =>
    if isPair first then splitPaired category 0 entries
    else if entries.length % 2 == 1 then refuse (.oddEntries category entries.length)
    else .ok (splitFlat entries)

/-! ### Compilation -/

variable [CharacterNames]

/-- Compile rules of which the first one has an index. -/
def compilePairs (v : Vocabulary) (category : String) (index : Nat) :
    List (Json × Json) → Compiled RuleGroup
  | [] => .ok []
  | (patterns, specs) :: rest =>
    match Rule.compile v patterns specs with
    | .ok rule => do return rule :: (← compilePairs v category (index + 1) rest)
    | .error failure => .error (failure.atRule category index)

/-- Compile the rules of a category. -/
def compile (v : Vocabulary) (category : String) : Json → Compiled RuleGroup
  | .arr entries => do compilePairs v category 0 (← split category entries)
  | value => refuse (.rulesNotList category value.typeName)

/-- The rules of a category as a rule table writes them. -/
def encode (group : RuleGroup) : Json :=
  .arr (group.map Rule.encode)

end RuleGroup

end UserAgent
