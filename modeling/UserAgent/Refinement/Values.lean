import UserAgent.Json.Display
import UserAgent.Refinement

/-!
# Refinement of records with other values

Records that do not come from rules may lack fields and may hold values that are not texts. They are
refined in the same way, as far as the values allow it.
-/

namespace UserAgent

/-- A record whose values may be any JSON. -/
abbrev ValueRecord := Assoc String Json

namespace ValueRecord

/-- Why a record is not refined. -/
inductive Error where
  /-- A value has no letters to be lowered or parts to be cut off. -/
  | notText
  /-- A value is neither a text nor a collection. -/
  | wrongType
deriving DecidableEq, Repr

/-- Refine the record of a browser. -/
def refineBrowser (r : ValueRecord) : Except Error ValueRecord := do
  let named ← match Assoc.get? "name" r with
    | some (.str name) =>
      pure (if name.isEmpty then r else Assoc.insert "name" (.str (canonicalBrowserName name)) r)
    | some value => if value.isTruthy then .error .notText else pure r
    | none => pure r
  match Assoc.get? "version" r with
  | some (.str version) => return Assoc.insert "major" (.str (majorVersion version)) named
  | some _ => .error .wrongType
  | none => return Assoc.insert "major" (.str unset) named

/-- Refine the record of an operating system. -/
def refineOs (r : ValueRecord) : ValueRecord :=
  match Assoc.get? "version" r with
  | none | some .null => Assoc.insert "version" (.str unset) r
  | some value => Assoc.insert "version" (.str value.toText) r

/-- Whether the record of an operating system is that of Android. -/
def isAndroid (os : ValueRecord) : Except Error Bool :=
  match Assoc.get? "name" os with
  | some (.str name) => .ok (Text.lower name == Record.androidName)
  | some value => if value.isTruthy then .error .notText else .ok false
  | none => .ok false

/-- Whether a field holds a text. -/
def holds (r : ValueRecord) (field text : String) : Bool :=
  Assoc.get? field r == some (.str text)

/-- Fill in what Android tells about a device of unknown type. -/
def fillAndroid (r os : ValueRecord) : Except Error ValueRecord :=
  if r.holds "type" unset then
    os.isAndroid.map fun isAndroid =>
      if isAndroid then
        let r : ValueRecord :=
          if r.holds "vendor" unset then Assoc.insert "vendor" (.str Record.genericVendor) r else r
        Assoc.insert "type" (.str Record.androidType) r
      else r
  else .ok r

/-- Replace a model that is the name of a browser. -/
def correctSamsung (r : ValueRecord) : ValueRecord :=
  if r.holds "vendor" "Samsung" && r.holds "model" "Browser" then
    Assoc.insert "model" (.str Record.genericVendor) r
  else r

/-- Cut a model off at the first semicolon. -/
def cutModel (r : ValueRecord) : Except Error ValueRecord :=
  match Assoc.get? "model" r with
  | some (.str model) =>
    .ok (if model.toList.contains ';' then Assoc.insert "model" (.str (Text.before ';' model)) r
      else r)
  | some (.arr items) => if items.contains (.str ";") then .error .notText else .ok r
  | some (.obj members) => if Assoc.contains ";" members then .error .notText else .ok r
  | some value => if value.isTruthy then .error .wrongType else .ok r
  | none => .ok r

/-- Refine the record of a device, given the refined record of the operating system. -/
def refineDevice (r os : ValueRecord) : Except Error ValueRecord := do
  (← r.fillAndroid os).correctSamsung.cutModel

end ValueRecord

end UserAgent
