import UserAgent.Category

/-!
# Colours

A terminal shows text in a colour or style between the code of the colour and that of the end.
-/

namespace UserAgent

/-- The colours and styles of text. -/
inductive Color where
  | reset
  | bold
  | dim
  | blue
  | cyan
  | green
  | magenta
  | yellow
deriving DecidableEq, Repr

namespace Color

/-- The number of a colour. -/
def number : Color → Nat
  | reset => 0
  | bold => 1
  | dim => 2
  | blue => 94
  | cyan => 96
  | green => 92
  | magenta => 95
  | yellow => 93

/-- The code that turns a colour on. -/
def code (c : Color) : String :=
  "\x1b[" ++ toString c.number ++ "m"

/-- A text in a colour, if colours are in use. -/
def paint (c : Color) (inUse : Bool) (text : String) : String :=
  if inUse then c.code ++ text ++ reset.code else text

end Color

/-- The colour of the heading of a category. -/
def Category.color : Category → Color
  | browser => .blue
  | engine => .cyan
  | os => .green
  | cpu => .magenta
  | device => .yellow

end UserAgent
