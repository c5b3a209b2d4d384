import UserAgent.Json.Reader
import UserAgent.Refinement
import UserAgent.Rule

/-!
# Rule sets

A rule table is a JSON object that gives each category its list of rules, and perhaps a version. A
rule set is a rule table that has been compiled: nothing in it can fail while user agents are
classified.
-/

namespace UserAgent

/-! ### Groups of rules -/

/-- The rules of every category. -/
structure RuleGroups where
  browser : RuleGroup := []
  engine : RuleGroup := []
  os : RuleGroup := []
  cpu : RuleGroup := []
  device : RuleGroup := []

namespace RuleGroups

/-- The rules of a category. -/
def get (g : RuleGroups) : Category → RuleGroup
  | .browser => g.browser
  | .engine => g.engine
  | .os => g.os
  | .cpu => g.cpu
  | .device => g.device

/-- Give a category its rules. -/
def set (g : RuleGroups) (c : Category) (rules : RuleGroup) : RuleGroups :=
  match c with
  | .browser => { g with browser := rules }
  | .engine => { g with engine := rules }
  | .os => { g with os := rules }
  | .cpu => { g with cpu := rules }
  | .device => { g with device := rules }

@[simp] theorem get_set_self (g : RuleGroups) (c : Category) (rules : RuleGroup) :
    (g.set c rules).get c = rules := by
  cases c <;> rfl

/-- Setting the rules of one category leaves those of the others. -/
theorem get_set_of_ne (g : RuleGroups) {c d : Category} (h : c ≠ d) (rules : RuleGroup) :
    (g.set c rules).get d = g.get d := by
  cases c <;> cases d <;> first | rfl | exact absurd rfl h

end RuleGroups

/-! ### Rule sets -/

/-- A compiled rule table. -/
structure RuleSet where
  groups : RuleGroups
  version : String
  lastUpdated : String
  /-- The file that the table was read from. -/
  source : Option String
  /-- The hash of that file, if it was asked for. -/
  fileHash : Option String

namespace RuleSet

/-- The rules of a category. -/
def group (r : RuleSet) (c : Category) : RuleGroup :=
  r.groups.get c

/-- The number of rules. -/
def count (r : RuleSet) : Nat :=
  Category.all.foldl (fun total c => total + (r.group c).length) 0

/-- The words for a version or a date that a table does not give. -/
def unknownVersion : String := "unknown"

/-! ### Reading -/

/-- The keys of a rule table that do not hold rules. -/
def metadataKeys : List String := ["version", "last_updated", "generated"]

variable [CharacterNames]

/-- Compile the members of a rule table and put them into the groups. Keys that are neither metadata
nor the name of a category are noted and passed over. -/
def compileMembers (v : Vocabulary) (groups : RuleGroups) :
    List (String × Json) → Logged (Compiled RuleGroups)
  | [] => ⟨.ok groups, []⟩
  | (key, entries) :: rest =>
    if metadataKeys.contains key then compileMembers v groups rest
    else
      match Category.ofName? key with
      | none => do
        Logged.note .warning ("Ignoring unknown rule table key: " ++ key)
        compileMembers v groups rest
      | some c =>
        match RuleGroup.compile v c.name entries with
        | .ok rules => compileMembers v (groups.set c rules) rest
        | .error failure => ⟨.error failure, []⟩

/-- The text of a metadata key. -/
def metadataText (key : String) (members : List (String × Json)) : String :=
  ((Assoc.get? key members).map Json.toText).getD unknownVersion

/-- Compile a rule table. -/
def ofTable (v : Vocabulary) (table : Json) (source fileHash : Option String := none) :
    Logged (Compiled RuleSet) :=
  match table with
  | .obj members =>
    (compileMembers v {} members).map fun groups => do
      return {
        groups := ← groups
        version := metadataText "version" members
        lastUpdated := metadataText "last_updated" members
        source
        fileHash }
  | value => ⟨refuse (.tableNotObject value.typeName), []⟩

/-! ### Writing -/

/-- The members of a rule set as a rule table. -/
def toMembers (r : RuleSet) : List (String × Json) :=
  ("version", .str r.version) :: ("last_updated", .str r.lastUpdated) ::
    Category.all.map fun c => (c.name, (r.group c).encode)

/-- A rule set as a rule table. -/
def toTable (r : RuleSet) : Json :=
  .obj r.toMembers

/-- A rule set as the text of a file that was written at some time. -/
def exportText (r : RuleSet) (time : String) : String :=
  (Json.obj (r.toMembers ++ [("generated", .str time)])).render (.indented 2)

end RuleSet

/-! ### Version information -/

/-- What is told about a rule set. -/
structure VersionInfo where
  version : String
  lastUpdated : String
  source : String
  hash : Option String
  total : Nat
  counts : List (Category × Nat)
deriving DecidableEq

/-- What is told about a rule set. -/
def RuleSet.info (r : RuleSet) : VersionInfo where
  version := r.version
  lastUpdated := r.lastUpdated
  source := r.source.getD "built-in"
  hash := r.fileHash
  total := r.count
  counts := Category.all.map fun c => (c, (r.group c).length)

/-- The members of the information as a JSON object. -/
def VersionInfo.toMembers (i : VersionInfo) : List (String × Json) :=
  [("version", .str i.version),
    ("last_updated", .str i.lastUpdated),
    ("source", .str i.source),
    ("hash", (i.hash.map Json.str).getD .null),
    ("total_rules", .int i.total),
    ("rules", .obj (i.counts.map fun (c, n) => (c.name, .int n)))]

/-- The information as a JSON object. -/
def VersionInfo.toJson (i : VersionInfo) : Json :=
  .obj i.toMembers

/-! ### Classification -/

namespace RuleSet

/-- The record of a category as its rules give it. -/
def rawRecord (r : RuleSet) (userAgent : String) (c : Category) : Logged Record :=
  (r.group c).classify c.fields userAgent

/-- The record of a category. The operating system is classified again for the device. -/
def record (r : RuleSet) (userAgent : String) : Category → Logged Record
  | .browser => (r.rawRecord userAgent .browser).map Record.refineBrowser
  | .engine => r.rawRecord userAgent .engine
  | .os => (r.rawRecord userAgent .os).map Record.refineOs
  | .cpu => r.rawRecord userAgent .cpu
  | .device => do
    let device ← r.rawRecord userAgent .device
    let os ← (r.rawRecord userAgent .os).map Record.refineOs
    return device.refineDevice os

/-- The description of a user agent in every category. -/
def classify (r : RuleSet) (userAgent : String) : Logged Classification := do
  let browser ← r.record userAgent .browser
  let engine ← r.record userAgent .engine
  let os ← r.record userAgent .os
  let device ← r.record userAgent .device
  let cpu ← r.record userAgent .cpu
  Logged.note .debug ("Classified " ++ Text.quoted userAgent)
  return { input := userAgent, browser, engine, os, device, cpu }

end RuleSet

end UserAgent
