import UserAgent.Decimal.Limit
import UserAgent.Unicode.Blank
import UserAgent.Unicode.Digit

/-!
# Integers in texts

An integer is written with digits of any script, a sign before them, white space around them and
single underscores between them.
-/

namespace UserAgent.Text

/-- The values of digits with single underscores between them. -/
def digitValues? : List Char → Option (List Nat)
  | [] => none
  | [c] => (Unicode.digitValue? c.toNat).map ([·])
  | c :: '_' :: cs => do return (← Unicode.digitValue? c.toNat) :: (← digitValues? cs)
  | c :: d :: cs => do return (← Unicode.digitValue? c.toNat) :: (← digitValues? (d :: cs))

/-- Remove white space at both ends: that of all scripts, or that of ASCII from an ASCII text. -/
def trimInteger (cs : List Char) : List Char :=
  let isBlank : Char → Bool :=
    if cs.all (·.toNat < 0x80) then fun c => Unicode.isAsciiBlank c.toNat
    else fun c => Unicode.isBlank c.toNat
  ((cs.dropWhile isBlank).reverse.dropWhile isBlank).reverse

/-- The natural number that digits stand for. -/
def readNatural (cs : List Char) : Option Nat := do
  let values ← digitValues? cs
  if maxNumeralDigits < values.length then none
  else return values.foldl (fun n d => n * 10 + d) 0

/-- The integer that a text stands for. -/
def readInteger (cs : List Char) : Option Int :=
  match trimInteger cs with
  | '-' :: cs => (readNatural cs).map fun n => -(n : Int)
  | '+' :: cs => (readNatural cs).map Int.ofNat
  | cs => (readNatural cs).map Int.ofNat

end UserAgent.Text
