import UserAgent.Decimal.Binary64

/-!
# Shortest decimals

The decimal text of a floating-point number has the fewest digits that read back as the number, and
of those the digits nearest to it. The digits of each length lie on a grid of powers of ten; the two
points of the grid around the number are tried, for one digit, two digits, and so on up to seventeen.
-/

namespace UserAgent

/-- A decimal number: an integer times a power of ten. -/
structure Decimal where
  digits : Nat
  power : Int
deriving DecidableEq, Repr, Inhabited

namespace Decimal

/-- Compare `a * 10 ^ power` with `b * 2 ^ exponent` exactly. -/
def compareScaled (a : Nat) (power : Int) (b : Nat) (exponent : Int) : Ordering :=
  compare (a * Nat.pow 10 power.toNat * Nat.pow 2 (-exponent).toNat)
    (b * Nat.pow 2 exponent.toNat * Nat.pow 10 (-power).toNat)

/-- The greatest integer `a` with `a * 10 ^ power ≤ b * 2 ^ exponent`. -/
def floorScaled (b : Nat) (exponent power : Int) : Nat :=
  b * Nat.pow 2 exponent.toNat * Nat.pow 10 (-power).toNat /
    (Nat.pow 10 power.toNat * Nat.pow 2 (-exponent).toNat)

/-- Whether `d` reads back as the positive finite number `x`: it lies between the midpoints to the
neighbours of `x`, which themselves count when the mantissa is even. In quarters of the last binary
place the midpoints are two away, and one below at a power of two, where the spacing changes. -/
def readsBack (x : Binary64) (d : Decimal) : Bool :=
  let below := if x.mantissa == Nat.pow 2 52 && -1074 < x.exponent then 1 else 2
  let low := compareScaled d.digits d.power (4 * x.mantissa - below) (x.exponent - 2)
  let high := compareScaled d.digits d.power (4 * x.mantissa + 2) (x.exponent - 2)
  if x.mantissa % 2 == 0 then low != .lt && high != .gt else low == .gt && high == .lt

/-- Of the grid points `low` and `low + 1` around `x`, the nearer one, an even one on a tie. -/
def nearer (x : Binary64) (low : Nat) (power : Int) : Nat :=
  match compareScaled (2 * low + 1) power (2 * x.mantissa) x.exponent with
  | .lt => low + 1
  | .gt => low
  | .eq => if low % 2 == 0 then low else low + 1

/-- The decimal on the grid of `10 ^ power` that reads back as `x`, the nearer one if two do. -/
def onGrid? (x : Binary64) (power : Int) : Option Decimal :=
  let low := floorScaled x.mantissa x.exponent power
  let down := readsBack x ⟨low, power⟩
  let up := readsBack x ⟨low + 1, power⟩
  if down && up then some ⟨nearer x low power, power⟩
  else if down then some ⟨low, power⟩
  else if up then some ⟨low + 1, power⟩
  else none

/-- Move `k` up or down until `10 ^ (k - 1) ≤ x < 10 ^ k`. The first argument bounds the moves. -/
def adjustDigits (x : Binary64) : Nat → Int → Int
  | 0, k => k
  | steps + 1, k =>
    if compareScaled 1 k x.mantissa x.exponent != .gt then adjustDigits x steps (k + 1)
    else if compareScaled 1 (k - 1) x.mantissa x.exponent == .gt then adjustDigits x steps (k - 1)
    else k

/-- The number of digits of `x` before the point, negative when it begins with zeros after it. -/
def integerDigits (x : Binary64) : Int :=
  adjustDigits x 4 ((((x.mantissa.log2 : Int) + x.exponent) * 30103).fdiv 100000 + 1)

/-- Search the grids of `count`, `count + 1`, ... digits. The first argument bounds the search. -/
def shortestFrom (x : Binary64) (k : Int) : Nat → Nat → Decimal
  | 0, count => ⟨nearer x (floorScaled x.mantissa x.exponent (k - count)) (k - count), k - count⟩
  | steps + 1, count =>
    match onGrid? x (k - count) with
    | some d => d
    | none => shortestFrom x k steps (count + 1)

/-- The shortest decimal that reads back as the positive finite number `x`. -/
def shortest (x : Binary64) : Decimal :=
  shortestFrom x (integerDigits x) 16 1

end Decimal

end UserAgent
