import UserAgent.Json.Basic
import UserAgent.Decimal.Text
import UserAgent.Text.Quoted
import UserAgent.Text.Slice

/-!
# JSON text

Values are written in ASCII, on one line or with one item a line. Everything outside the printable
ASCII characters is escaped, by two escapes where a character needs two UTF-16 units.
-/

namespace UserAgent.Json

/-! ### Strings -/

/-- The escape of one UTF-16 unit. -/
def unitEscape (unit : Nat) : List Char :=
  '\\' :: 'u' :: Text.hexDigits 4 unit

/-- A character inside a string. -/
def escapeChar (c : Char) : List Char :=
  if c == '"' || c == '\\' then ['\\', c]
  else if c == '\n' then ['\\', 'n']
  else if c == '\r' then ['\\', 'r']
  else if c == '\t' then ['\\', 't']
  else if c.toNat == 0x0c then ['\\', 'f']
  else if c.toNat == 0x08 then ['\\', 'b']
  else if 0x20 ≤ c.toNat && c.toNat < 0x7f then [c]
  else if c.toNat < 0x10000 then unitEscape c.toNat
  else
    let n := c.toNat - 0x10000
    unitEscape (0xd800 + n / 0x400) ++ unitEscape (0xdc00 + n % 0x400)

/-- The text of a string, with its quotes. -/
def renderString (s : String) : String :=
  String.ofList ('"' :: s.toList.flatMap escapeChar ++ ['"'])

/-! ### Values -/

/-- The text of a number; the values that are not numbers have names. -/
def renderFloat (x : Binary64) : String :=
  if x.isNaN then "NaN"
  else if x.isInfinite then (if x.isNegative then "-Infinity" else "Infinity")
  else x.toText

/-- Whether items stand on lines of their own, indented by a number of columns for each level. -/
inductive Style where
  | line
  | indented (columns : Nat)
deriving DecidableEq, Repr

/-- What stands between an opening bracket and the first item. -/
def Style.newline (style : Style) (depth : Nat) : String :=
  match style with
  | .line => ""
  | .indented columns => String.ofList ('\n' :: List.replicate (columns * depth) ' ')

/-- What stands between two items. -/
def Style.between (style : Style) (depth : Nat) : String :=
  match style with
  | .line => ", "
  | .indented _ => "," ++ style.newline depth

mutual
/-- The text of a value inside `depth` brackets. -/
def renderAt (style : Style) (depth : Nat) : Json → String
  | .null => "null"
  | .bool b => if b then "true" else "false"
  | .int i => toString i
  | .float x => renderFloat x
  | .str s => renderString s
  | .arr [] => "[]"
  | .arr (item :: items) =>
    "[" ++ style.newline (depth + 1) ++
      Text.joinWith (style.between (depth + 1)) (renderItems style (depth + 1) (item :: items)) ++
      style.newline depth ++ "]"
  | .obj [] => "\x7b\x7d"
  | .obj (member :: members) =>
    "\x7b" ++ style.newline (depth + 1) ++
      Text.joinWith (style.between (depth + 1))
        (renderMembers style (depth + 1) (member :: members)) ++
      style.newline depth ++ "\x7d"

/-- The texts of items. -/
def renderItems (style : Style) (depth : Nat) : List Json → List String
  | [] => []
  | item :: items => renderAt style depth item :: renderItems style depth items

/-- The texts of members. -/
def renderMembers (style : Style) (depth : Nat) : List (String × Json) → List String
  | [] => []
  | (name, value) :: members =>
    (renderString name ++ ": " ++ renderAt style depth value) :: renderMembers style depth members
end

/-- The text of a value. -/
def render (style : Style) (value : Json) : String :=
  renderAt style 0 value

end UserAgent.Json
