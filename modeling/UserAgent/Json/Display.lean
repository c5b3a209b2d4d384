import UserAgent.Json.Printer

/-!
# Values in messages

Messages show a value in the notation of its structure, with texts between quotes, and name its type.
-/

namespace UserAgent.Json

/-- The name of the type of a value. -/
def typeName : Json → String
  | .null => "NoneType"
  | .bool _ => "bool"
  | .int _ => "int"
  | .float _ => "float"
  | .str _ => "str"
  | .arr _ => "list"
  | .obj _ => "dict"

mutual
/-- A value as messages show it. -/
def display : Json → String
  | .null => "None"
  | .bool b => if b then "True" else "False"
  | .int i => toString i
  | .float x => x.toText
  | .str s => Text.quoted s
  | .arr items => "[" ++ Text.joinWith ", " (displayItems items) ++ "]"
  | .obj members => "\x7b" ++ Text.joinWith ", " (displayMembers members) ++ "\x7d"

/-- Items as messages show them. -/
def displayItems : List Json → List String
  | [] => []
  | item :: items => display item :: displayItems items

/-- Members as messages show them. -/
def displayMembers : List (String × Json) → List String
  | [] => []
  | (name, value) :: members =>
    (Text.quoted name ++ ": " ++ display value) :: displayMembers members
end

/-- A value as text: a string is its own text, all else is displayed. -/
def toText : Json → String
  | .str s => s
  | value => display value

end UserAgent.Json
