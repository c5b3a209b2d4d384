import UserAgent.Category
import UserAgent.Text.Trim

/-!
# Transforms

A field specification may name a transform, a function that is applied to what was captured. The
names are resolved in a registry when a rule is compiled.
-/

namespace UserAgent

/-- A function on texts that a transform may apply. -/
abbrev TextFunction := String → String

namespace TextFunction

/-- The lower case of a text. -/
def lower : TextFunction := Text.lower

/-- The upper case of a text. No built-in transform takes it. -/
def upper : TextFunction := Text.upper

/-- A text without the white space around it. -/
def trim : TextFunction := Text.trim

end TextFunction

/-- A named function. -/
structure Transform where
  name : String
  function : TextFunction
  /-- Whether an absent capture gives the unset value, and not the name as a literal. -/
  acceptsMissing : Bool := true

/-- The value of a transform; nothing gives the unset value. -/
def Transform.apply (t : Transform) : Option String → String
  | none => unset
  | some s => t.function s

/-! ### Registries -/

/-- The transforms that may be named, in order, each under the name that stands for it. That name need
not be the transform's own. -/
abbrev Transforms := Assoc String Transform

namespace Transforms

/-- The registry with the transforms of a list under their own names. Of two with one name the later
one counts, in the place of the earlier one. -/
def ofList (ts : List Transform) : Transforms :=
  Assoc.ofList (ts.map fun t => (t.name, t))

/-- The transform that is registered under a name. -/
def find? (ts : Transforms) (name : String) : Option Transform :=
  Assoc.get? name ts

/-- Whether a transform is registered under the name. -/
def contains (ts : Transforms) (name : String) : Bool :=
  (ts.find? name).isSome

/-- The registered names in alphabetical order. -/
def sortedNames (ts : Transforms) : List String :=
  ts.keys.mergeSort fun a b => !(b < a)

/-- The words for a name that is not registered. -/
def unknownMessage (ts : Transforms) (name : String) : String :=
  "Unknown transform '" ++ name ++ "' (registered: " ++ Text.joinWith ", " ts.sortedNames ++ ")"

/-- The first registered name that differs from an unregistered one by case only. -/
def nearMiss? (ts : Transforms) (name : String) : Option String :=
  if ts.contains name then none
  else
    let folded := Text.fold name
    ts.keys.find? fun other => Text.fold other == folded

/-- The transforms of every rule table. -/
def builtIn : Transforms :=
  [("lowerize", { name := "lowerize", function := .lower }),
    ("trim", { name := "trim", function := .trim })]

end Transforms

end UserAgent
