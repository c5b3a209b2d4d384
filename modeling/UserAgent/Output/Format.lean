import UserAgent.Json.Display
import UserAgent.Output.Color
import UserAgent.Output.Table
import UserAgent.RuleSet

/-!
# Forms of output

Classifications and information on rule sets are written as text for readers or as JSON.
-/

namespace UserAgent

/-! ### Text -/

/-- How text is written. -/
structure TextFormat where
  colors : Bool := false
  /-- Whether fields are shown that hold no value. -/
  showEmpty : Bool := false
deriving DecidableEq, Repr

namespace TextFormat

/-- The fields of a record that are shown. -/
def shownFields (f : TextFormat) (r : Record) : Record :=
  r.filter fun (_, value) => f.showEmpty || !value.isEmpty

/-- The line of a field. -/
def fieldLine (field value : String) : String :=
  "    " ++ field ++ ": " ++ (if value.isEmpty then "-" else value)

/-- The lines of a category. -/
def categoryLines (f : TextFormat) (c : Category) (r : Record) : List String :=
  let heading := "  " ++ c.color.paint f.colors c.heading ++ ":"
  match f.shownFields r with
  | [] => [heading ++ " " ++ Color.dim.paint f.colors "unknown"]
  | fields => heading :: fields.map fun (field, value) => fieldLine field value

/-- The categories that are shown: all if none is selected. -/
def selection : List Category → List Category
  | [] => Category.all
  | categories => categories

/-- A classification as text. -/
def result (f : TextFormat) (categories : List Category) (r : Classification) : String :=
  Text.joinWith "\n"
    (Color.bold.paint f.colors (if r.input.isEmpty then "(empty)" else r.input) ::
      (selection categories).flatMap fun c => f.categoryLines c (r.get c))

/-- Classifications as text, with blank lines between them. -/
def resultList (f : TextFormat) (categories : List Category) (rs : List Classification) : String :=
  match rs with
  | [] => "No user agents to classify."
  | rs => Text.joinWith "\n\n" (rs.map (f.result categories))

/-- A member of some information, or the text that stands for it. -/
def infoText (info : Assoc String Json) (key default : String) : String :=
  ((Assoc.get? key info).map Json.toText).getD default

/-- The line for the hash of a file, if there is one. -/
def hashLines (info : Assoc String Json) : List String :=
  match Assoc.get? "hash" info with
  | some hash => if hash.isTruthy then ["  SHA256: " ++ hash.toText] else []
  | none => []

/-- The numbers of rules in a table after a blank line, if there are any. -/
def countLines (counts : Assoc String Json) : List String :=
  let rows := counts.map fun (name, count) => [name, count.toText]
  if rows.isEmpty then [] else ["", Table.render ["Category", "Rules"] rows]

/-- Information on a rule set as text. The numbers of rules have to be an object if they are there. -/
def ruleInfo? (f : TextFormat) (info : Assoc String Json) : Option String := do
  let counts ← ((Assoc.get? "rules" info).getD (.obj [])).asMembers?
  return Text.joinWith "\n" (
    Color.bold.paint f.colors "Rule Set" ::
    ("  Version: " ++ infoText info "version" "unknown") ::
    ("  Last updated: " ++ infoText info "last_updated" "unknown") ::
    ("  Source: " ++ infoText info "source" "built-in") ::
    hashLines info ++ countLines counts ++
    ["Total: " ++ infoText info "total_rules" "0" ++ " rules"])

end TextFormat

/-! ### JSON -/

/-- How JSON is written: on one line or on several. -/
abbrev JsonFormat := Json.Style

namespace JsonFormat

/-- The records that are written: all if none is selected. -/
def resultJson (categories : List Category) (r : Classification) : Json :=
  match categories with
  | [] => r.toJson
  | categories => r.selectedJson categories

/-- A classification as JSON text. -/
def result (f : JsonFormat) (categories : List Category) (r : Classification) : String :=
  (resultJson categories r).render f

/-- Classifications as the text of a JSON array. -/
def resultList (f : JsonFormat) (categories : List Category) (rs : List Classification) : String :=
  (Json.arr (rs.map (resultJson categories))).render f

/-- Information on a rule set as JSON text. -/
def ruleInfo (f : JsonFormat) (info : Assoc String Json) : String :=
  (Json.obj info).render f

end JsonFormat

/-! ### Both -/

/-- A form of output. -/
inductive Formatter where
  | text (format : TextFormat)
  | json (format : JsonFormat)

namespace Formatter

/-- The form that is asked for. Colours are used only on a terminal. -/
def choose (asJson colors showEmpty terminal : Bool) : Formatter :=
  if asJson then json (.indented 2) else text { colors := colors && terminal, showEmpty }

/-- A classification. -/
def result : Formatter → List Category → Classification → String
  | text f, categories, r => f.result categories r
  | json f, categories, r => JsonFormat.result f categories r

/-- Several classifications. -/
def resultList : Formatter → List Category → List Classification → String
  | text f, categories, rs => f.resultList categories rs
  | json f, categories, rs => JsonFormat.resultList f categories rs

/-- Information on a rule set. -/
def ruleInfo? : Formatter → Assoc String Json → Option String
  | text f, info => f.ruleInfo? info
  | json f, info => some (JsonFormat.ruleInfo f info)

/-- The version information of a rule set. -/
def info (f : Formatter) (i : VersionInfo) : String :=
  (f.ruleInfo? i.toMembers).getD ""

end Formatter

end UserAgent
