import UserAgent.Assoc
import UserAgent.Json.Basic
import UserAgent.Text.Case
import UserAgent.Text.Slice

/-!
# Categories and records

A user agent is described in five categories. The description in one category is a record: a value
for each field of the category, which is empty as long as no rule has set it.
-/

namespace UserAgent

/-- The value of every field that no rule has set. -/
def unset : String := ""

/-! ### Categories -/

/-- What is extracted from a user agent. -/
inductive Category where
  | browser
  | engine
  | os
  | cpu
  | device
deriving DecidableEq, Repr, Inhabited

namespace Category

/-- The categories in order. -/
def all : List Category := [browser, engine, os, cpu, device]

/-- The name of a category. -/
def name : Category → String
  | browser => "browser"
  | engine => "engine"
  | os => "os"
  | cpu => "cpu"
  | device => "device"

/-- The name of a category as a heading. -/
def heading : Category → String
  | browser => "Browser"
  | engine => "Engine"
  | os => "Os"
  | cpu => "Cpu"
  | device => "Device"

/-- The fields of the records of a category, in order. -/
def fields : Category → List String
  | browser => ["name", "version", "major"]
  | engine => ["name", "version"]
  | os => ["name", "version"]
  | cpu => ["architecture"]
  | device => ["vendor", "model", "type"]

/-- The category with a name in any case. -/
def ofName? (name : String) : Option Category :=
  let lowered := Text.lower name
  all.find? (·.name == lowered)

/-- The words for a name that no category has. -/
def unknownMessage (name : String) : String :=
  "Unknown category '" ++ name ++ "', must be one of: " ++
    Text.joinWith ", " (all.map Category.name)

end Category

/-! ### Records -/

/-- The fields of a category with their values, in order. -/
abbrev Record := Assoc String String

namespace Record

/-- A record whose fields are all unset. -/
def ofFields (fields : List String) : Record :=
  Assoc.ofList (fields.map (·, unset))

/-- The value of a field, unset if the record lacks it. -/
def value (r : Record) (field : String) : String :=
  (Assoc.get? field r).getD unset

/-- A record as a JSON object. -/
def toJson (r : Record) : Json :=
  .obj (r.map fun (field, value) => (field, .str value))

end Record

/-- The record of a category in which nothing is set. -/
def Category.emptyRecord (c : Category) : Record :=
  Record.ofFields c.fields

/-! ### Classifications -/

/-- The description of one user agent in every category. -/
structure Classification where
  input : String
  browser : Record := Category.browser.emptyRecord
  engine : Record := Category.engine.emptyRecord
  os : Record := Category.os.emptyRecord
  device : Record := Category.device.emptyRecord
  cpu : Record := Category.cpu.emptyRecord
deriving DecidableEq, Repr

namespace Classification

/-- The record of a category. -/
def get (r : Classification) : Category → Record
  | .browser => r.browser
  | .engine => r.engine
  | .os => r.os
  | .cpu => r.cpu
  | .device => r.device

/-- The order in which the records of a classification are written. -/
def order : List Category := [.browser, .engine, .os, .device, .cpu]

/-- The records of some categories as a JSON object, after the input. -/
def selectedJson (r : Classification) (categories : List Category) : Json :=
  .obj (("input", .str r.input) ::
    (order.filter categories.contains).map fun c => (c.name, (r.get c).toJson))

/-- A classification as a JSON object. -/
def toJson (r : Classification) : Json :=
  r.selectedJson Category.all

end Classification

end UserAgent
