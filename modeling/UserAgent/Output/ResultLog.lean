import UserAgent.Category
import UserAgent.Decimal.Text
import UserAgent.Json.Display
import UserAgent.Text.Trim

/-!
# The log of results

Every user agent that is classified is noted in a log, with its browser, operating system and type of
device and the time that the classification has taken.
-/

namespace UserAgent.ResultLog

/-- The value of a field, or what stands for one that holds nothing. -/
def shown (record : Assoc String Json) (field default : String) : String :=
  match Assoc.get? field record with
  | some value => if value.isTruthy then value.toText else default
  | none => default

/-- The name and the version of a record. -/
def nameAndVersion (record : Assoc String Json) : String :=
  shown record "name" "-" ++ " " ++ shown record "version" ""

/-- The message for a user agent with the records for browser, operating system and device, and the
milliseconds that were taken. -/
def message (browser os device : Assoc String Json) (milliseconds : Binary64)
    (userAgent : String) : String :=
  Text.trimEnd (nameAndVersion browser) ++
    Text.trimEnd (" | " ++ nameAndVersion os) ++
    " | " ++ shown device "type" "-" ++
    " | " ++ milliseconds.toFixed 2 ++ "ms | " ++ userAgent

/-- A record whose values are JSON texts. -/
def values (r : Record) : Assoc String Json :=
  r.map fun (field, value) => (field, .str value)

/-- The message for a classification. -/
def classified (r : Classification) (milliseconds : Binary64) : String :=
  message (values r.browser) (values r.os) (values r.device) milliseconds r.input

end UserAgent.ResultLog
