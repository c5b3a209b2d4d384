import UserAgent.Category
import UserAgent.Regex.Template

/-!
# Refinement of records

The record that a rule has set is refined before it is shown: browsers get their common name and a
major version, and devices get what the operating system tells about them.
-/

namespace UserAgent

/-! ### Browsers -/

/-- The common names of browsers by the names that they go by, in lower case. -/
def browserAliases : Assoc String String := [
  ("webkit", "Safari"),
  ("khtml", "Konqueror"),
  ("gecko", "Firefox"),
  ("blink", "Chrome"),
  ("opr", "Opera"),
  ("samsungbrowser", "Samsung Browser"),
  ("crios", "Chrome"),
  ("crmo", "Chrome"),
  ("fxios", "Firefox"),
  ("edg", "Edge"),
  ("edga", "Edge"),
  ("edgios", "Edge"),
  ("msie", "IE"),
  ("trident", "IE"),
  ("baidubrowser", "Baidu"),
  ("bidubrowser", "Baidu"),
  ("baiduboxapp", "Baidu App"),
  ("metasr", "Sogou Explorer"),
  ("lbbrowser", "Liebao"),
  ("2345explorer", "2345 Explorer")]

/-- The common name of a browser, or the name itself if it has none. -/
def canonicalBrowserName (name : String) : String :=
  (Assoc.get? (Text.lower name) browserAliases).getD name

/-- The major version of a version: of its digits and points, what stands before the first point. -/
def majorVersion (version : String) : String :=
  String.ofList
    ((version.toList.filter fun c => Template.isDigit c || c == '.').takeWhile (· != '.'))

namespace Record

/-- Refine the record of a browser. -/
def refineBrowser (r : Record) : Record :=
  let named := match Assoc.get? "name" r with
    | some name =>
      if name.isEmpty then r else Assoc.insert "name" (canonicalBrowserName name) r
    | none => r
  Assoc.insert "major" (majorVersion (r.value "version")) named

/-! ### Operating systems -/

/-- Refine the record of an operating system: it always has a version. -/
def refineOs (r : Record) : Record :=
  Assoc.insert "version" (r.value "version") r

/-! ### Devices -/

/-- The name of the operating system that tells most about a device. -/
def androidName : String := "android"

/-- The vendor of a device that is not known better, and the model of one that has none. -/
def genericVendor : String := "Generic"

/-- The type of an Android device that is not known better. -/
def androidType : String := "mobile"

/-- Whether the record of an operating system is that of Android. -/
def isAndroid (os : Record) : Bool :=
  Text.lower (os.value "name") == androidName

/-- Fill in what Android tells about a device of unknown type. -/
def fillAndroid (r os : Record) : Record :=
  if Assoc.get? "type" r == some unset && os.isAndroid then
    let r :=
      if Assoc.get? "vendor" r == some unset then Assoc.insert "vendor" genericVendor r else r
    Assoc.insert "type" androidType r
  else r

/-- Replace a model that is the name of a browser. -/
def correctSamsung (r : Record) : Record :=
  if Assoc.get? "vendor" r == some "Samsung" && Assoc.get? "model" r == some "Browser" then
    Assoc.insert "model" genericVendor r
  else r

/-- Cut a model off at the first semicolon. -/
def cutModel (r : Record) : Record :=
  match Assoc.get? "model" r with
  | some model =>
    if model.toList.contains ';' then Assoc.insert "model" (Text.before ';' model) r else r
  | none => r

/-- Refine the record of a device, given the refined record of the operating system. -/
def refineDevice (r os : Record) : Record :=
  ((r.fillAndroid os).correctSamsung).cutModel

end Record

end UserAgent
