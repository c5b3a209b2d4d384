import UserAgent.Assoc
import UserAgent.Text.Case
import UserAgent.Text.Slice

/-!
# Mapping tables

A mapping table turns a captured token, such as the number of a build, into a label. Each label has
triggers, and the first label with a trigger that occurs in the token is taken.
-/

namespace UserAgent

/-- A named table of labels with their triggers, in order. -/
structure MappingTable where
  name : String
  entries : List (String × List String)
deriving DecidableEq, Repr

/-- The triggers of a label as they are written: one text, or a list. -/
inductive Triggers where
  | one (trigger : String)
  | many (triggers : List String)
deriving DecidableEq, Repr

namespace Triggers

/-- The triggers as a list. -/
def toList : Triggers → List String
  | one trigger => [trigger]
  | many triggers => triggers

/-- A list of triggers as it is written: a single one as a text. -/
def ofList : List String → Triggers
  | [trigger] => one trigger
  | triggers => many triggers

end Triggers

namespace MappingTable

/-- The table that is written as labels with triggers. Of two entries with one label the later one
counts, in the place of the earlier one. -/
def ofDict (name : String) (entries : List (String × Triggers)) : MappingTable :=
  ⟨name, (Assoc.ofList entries).map fun (label, triggers) => (label, triggers.toList)⟩

/-- A table as it is written. -/
def toDict (t : MappingTable) : Assoc String Triggers :=
  Assoc.ofList (t.entries.map fun (label, triggers) => (label, Triggers.ofList triggers))

/-- Whether a trigger occurs in a value, ignoring case. -/
def triggeredBy (value trigger : String) : Bool :=
  Text.occursIn (Text.lower trigger).toList (Text.lower value).toList

/-- The label of a value, or the value itself if no trigger occurs in it. -/
def lookup (t : MappingTable) (value : String) : String :=
  match t.entries.find? fun (_, triggers) => triggers.any (triggeredBy value) with
  | some (label, _) => label
  | none => value

/-! ### Built-in tables -/

/-- The builds of the first versions of Safari. -/
def safari : MappingTable :=
  ofDict "safari" [
    ("1.0", .one "/8"),
    ("1.2", .one "/1"),
    ("1.3", .one "/3"),
    ("2.0", .one "/412"),
    ("2.0.2", .one "/416"),
    ("2.0.3", .one "/417"),
    ("2.0.4", .one "/419")]

/-- The internal numbers of the versions of Windows. -/
def windows : MappingTable :=
  ofDict "windows" [
    ("ME", .one "4.90"),
    ("NT 3.11", .one "NT3.51"),
    ("NT 4.0", .one "NT4.0"),
    ("2000", .one "NT 5.0"),
    ("XP", .many ["NT 5.1", "NT 5.2"]),
    ("Vista", .one "NT 6.0"),
    ("7", .one "NT 6.1"),
    ("8", .one "NT 6.2"),
    ("8.1", .one "NT 6.3"),
    ("10", .many ["NT 6.4", "NT 10.0"]),
    ("RT", .one "ARM")]

end MappingTable

/-! ### Collections of tables -/

/-- The tables that may be named, in order, each under the name that stands for it. That name need not
be the table's own. -/
abbrev MappingTables := Assoc String MappingTable

namespace MappingTables

/-- The tables of a list under their own names. Of two with one name the later one counts, in the
place of the earlier one. -/
def ofList (ts : List MappingTable) : MappingTables :=
  Assoc.ofList (ts.map fun t => (t.name, t))

/-- The table that is kept under a name. -/
def find? (ts : MappingTables) (name : String) : Option MappingTable :=
  Assoc.get? name ts

/-- The words for a name that no table has. -/
def unknownMessage (name : String) : String :=
  "Unknown mapping table: " ++ name

/-- The tables of every rule table. -/
def builtIn : MappingTables := ofList [.safari, .windows]

end MappingTables

end UserAgent
