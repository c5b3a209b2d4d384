import UserAgent.Mapping
import UserAgent.Regex.Template
import UserAgent.RuleError
import UserAgent.Transform

/-!
# Field specifications

A field specification turns what one group of a pattern has captured into the value of one field. A
rule table writes it as the name of the field, or as a list of two to four texts that begins with
the name. Names of transforms and mapping tables are resolved when it is read.
-/

namespace UserAgent

/-- The transforms and mapping tables that field specifications may name. -/
structure Vocabulary where
  transforms : Transforms := .builtIn
  tables : MappingTables := .builtIn
  /-- Refuse literals that differ from the name of a transform by case only. -/
  strict : Bool := false

/-- The word that marks a list of three texts as a lookup in a mapping table. -/
def mappingKeyword : String := "mapping"

/-- A replacement of every match of a pattern. -/
structure Substitution where
  search : Pattern
  template : Template
  /-- The template as the rule table writes it. -/
  source : String
deriving DecidableEq

/-- Replace the matches in a text. -/
def Substitution.apply (s : Substitution) (text : String) : String :=
  s.search.replaceAll s.template.expand text

/-- An instruction for the value of one field. -/
inductive FieldSpec where
  /-- The capture itself. -/
  | copy (name : String)
  /-- A constant. -/
  | literal (name value : String)
  /-- The capture, transformed. -/
  | transform (name : String) (transform : Transform)
  /-- The capture with every match of a pattern replaced. -/
  | substitute (name : String) (substitution : Substitution)
  /-- The label of the capture in a mapping table. -/
  | mapped (name : String) (table : MappingTable)
  /-- The result of a replacement, transformed. -/
  | substituteTransform (name : String) (substitution : Substitution) (transform : Transform)

namespace FieldSpec

/-- The field that is set. -/
def name : FieldSpec → String
  | copy name | literal name _ | transform name _ | substitute name _ | mapped name _
  | substituteTransform name _ _ => name

/-! ### Values -/

/-- The result of a function on a capture. Captures that are absent or empty give the unset value. -/
def onCapture (f : String → String) : Option String → String
  | some s => if s.isEmpty then unset else f s
  | none => unset

/-- The value of the field for a capture. -/
def resolve : FieldSpec → Option String → String
  | copy _, capture => onCapture id capture
  | literal _ value, _ => value
  | transform _ t, capture =>
    if capture.isNone && !t.acceptsMissing then t.name else t.apply capture
  | substitute _ s, capture => onCapture s.apply capture
  | mapped _ table, capture => onCapture table.lookup capture
  | substituteTransform _ s t, capture => onCapture (fun c => t.apply (some (s.apply c))) capture

/-! ### Writing -/

/-- A specification as a rule table writes it. -/
def encode : FieldSpec → Json
  | copy name => .str name
  | literal name value => .ofTexts [name, value]
  | transform name t => .ofTexts [name, t.name]
  | substitute name s => .ofTexts [name, s.search.text, s.source]
  | mapped name table => .ofTexts [name, mappingKeyword, table.name]
  | substituteTransform name s t => .ofTexts [name, s.search.text, s.source, t.name]

/-! ### Reading -/

variable [CharacterNames]

/-- Compile a pattern of a rule table. -/
def compilePattern (text : String) : Compiled Pattern :=
  match Pattern.compile text with
  | .ok p => .ok p
  | .error (.unsupportedFlag letter) => refuse (.unsupportedFlag letter text)
  | .error (.malformed fault) =>
    match fault.failure? with
    | some failure => .error failure
    | none => refuse (.malformedPattern text)

/-- Compile a pattern of a rule table, which may be any value. -/
def compilePatternValue : Json → Compiled Pattern
  | .str text => compilePattern text
  | value => refuse (.patternNotText value.typeName)

/-- Compile a replacement. -/
def compileSubstitution (pattern source : String) : Compiled Substitution := do
  let search ← compilePattern pattern
  let template := Template.fromDollar source
  match Template.check search template with
  | .ok pieces => return ⟨search, pieces, source⟩
  | .error .malformed => refuse (.malformedTemplate template)
  | .error (.unknownName name) => refuse (.unknownGroupName template name)

/-- The texts of a list, which must hold nothing else. -/
def requireTexts (spec : List Json) : List Json → Compiled (List String)
  | [] => .ok []
  | .str s :: rest => do return s :: (← requireTexts spec rest)
  | value :: _ => refuse (.elementNotText value.typeName spec)

/-- Read two texts: a transform if the second one names it, else a literal. -/
def decodePair (v : Vocabulary) (name token : String) : Compiled FieldSpec :=
  match v.transforms.find? token with
  | some t => .ok (.transform name t)
  | none =>
    match if v.strict then v.transforms.nearMiss? token else none with
    | some registered => refuse (.nearMiss name token registered)
    | none => .ok (.literal name token)

/-- Read three texts: a lookup if the second one is the keyword, else a replacement. -/
def decodeTriple (v : Vocabulary) (name second third : String) : Compiled FieldSpec :=
  if second = mappingKeyword then
    match v.tables.find? third with
    | some table => .ok (.mapped name table)
    | none => refuse (.unknownMapping name third)
  else do return .substitute name (← compileSubstitution second third)

/-- Read four texts: a replacement and a transform. -/
def decodeQuadruple (v : Vocabulary) (name pattern template token : String) : Compiled FieldSpec :=
  match v.transforms.find? token with
  | some t => do return .substituteTransform name (← compileSubstitution pattern template) t
  | none => refuse (.unknownTransform name (v.transforms.unknownMessage token))

/-- Read a specification as a rule table writes it. -/
def decode (v : Vocabulary) : Json → Compiled FieldSpec
  | .str name => if name.isEmpty then refuse .emptyFieldName else .ok (.copy name)
  | .arr spec =>
    if spec.length < 2 || 4 < spec.length then refuse (.badArity spec)
    else do
      let texts ← requireTexts spec spec
      if texts.head? == some "" then refuse (.emptyFirstElement spec)
      else
        match texts with
        | [name, token] => decodePair v name token
        | [name, second, third] => decodeTriple v name second third
        | [name, pattern, template, token] => decodeQuadruple v name pattern template token
        | _ => refuse (.badArity spec)
  | value => refuse (.specNotList value.typeName)

end FieldSpec

end UserAgent
